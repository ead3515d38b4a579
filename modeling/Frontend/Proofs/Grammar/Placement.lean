import Frontend.Proofs.Grammar.Acceptance
import Frontend.Proofs.Grammar.ModuleFinishing
import Frontend.Proofs.Grammar.ModuleOccupation
import Frontend.Proofs.Token.Tiling

/-!
# The spans of trees

The tokens of every text that the lexer accepts are in order, so the spans that the parser merges
are in order too, and every node is placed in the tokens. The names, the bodies and the items of a
module that are not read follow one another in the text.
-/

namespace Frontend

open Expression (Everywhere PlacedIn)
open Frontend.Parser (Item)

/-! ### Expressions -/

theorem Parser.wholeExpression_lies (fixities : FixityTable) {s : TokenStream} (hs : s.Ends) :
    (wholeExpression fixities).Ensures (fun e _ => ∃ t, Lies s e t) Fails s := by
  refine (wholeExpression_built fixities s).mono ?_ fun _ _ => id
  rintro e _ ⟨t, hbuilt⟩
  exact ⟨t, hbuilt.lies hs⟩

/-! ### Modules -/

theorem Identifier.frames_of_ofToken? {x : Token} {i : Identifier} (h : ofToken? x = some i) :
    Frames [x] i.span := by
  rw [ofToken?] at h
  split at h
  · cases h
    exact .token x
  · cases h

namespace ItemsOccupy

variable {items : List Item} {own tokens : List Token}

/-- Spans that each item has in its stretch are arranged in that of all items. -/
theorem arranged {f : Item → List Span} (h : ItemsOccupy items own)
    (hf : ∀ i own, ItemOccupies i own → Arranged own (f i)) : Arranged own (items.flatMap f) := by
  induction h with
  | nil => exact .nil
  | cons hi _ _ ih => exact (hf _ _ hi).append (ih.prepend _)

theorem binders (h : ItemsOccupy items own) :
    Arranged own ((items.filterMap Item.declaration?).map (·.binder.span)) := by
  rw [List.map_filterMap, List.filterMap_eq_flatMap_toList]
  refine h.arranged fun i own hi => ?_
  cases hi with
  | declared hx _ _ _ =>
    exact (Arranged.single (Identifier.frames_of_ofToken? hx)).extend _
  | deferred _ _ => exact .nil

theorem bodies (h : ItemsOccupy items own) :
    Arranged own ((items.filterMap Item.declaration?).map (·.body.span)) := by
  rw [List.map_filterMap, List.filterMap_eq_flatMap_toList]
  refine h.arranged fun i own hi => ?_
  cases hi with
  | @declared x o _ _ before _ _ _ _ hbody =>
    exact (Arranged.single hbody.frames_arranged.1).prepend (x :: o :: before)
  | deferred _ _ => exact .nil

theorem deferred (h : ItemsOccupy items own) :
    Arranged own ((items.filterMap Item.deferred?).map (·.span)) := by
  rw [List.map_filterMap, List.filterMap_eq_flatMap_toList]
  refine h.arranged fun i own hi => ?_
  cases hi with
  | declared _ _ _ _ => exact .nil
  | deferred _ h => exact .single h

theorem exists_stretch (h : ItemsOccupy items own) {i : Item} (hi : i ∈ items) :
    ∃ part, part <:+: own ∧ ItemOccupies i part := by
  induction h with
  | nil => cases hi
  | @cons _ _ own gap more h _ _ ih =>
    rcases List.mem_cons.mp hi with rfl | hi
    · exact ⟨own, ⟨[], _, rfl⟩, h⟩
    · obtain ⟨part, hpart, h⟩ := ih hi
      exact ⟨part, hpart.trans ⟨own ++ gap, [], by simp⟩, h⟩

theorem exists_declaration (h : ItemsOccupy items own) {d : Declaration}
    (hd : d ∈ items.filterMap Item.declaration?) :
    (∃ x ∈ own, Identifier.ofToken? x = some d.binder) ∧
      ∃ part, part <:+: own ∧ d.body.Occupies part := by
  obtain ⟨i, hi, hd⟩ := List.mem_filterMap.mp hd
  obtain ⟨part, hpart, h⟩ := h.exists_stretch hi
  cases h with
  | @declared x o _ _ before body hx _ _ hbody =>
    cases hd
    exact ⟨⟨x, hpart.subset List.mem_cons_self, hx⟩,
      body, .trans ⟨x :: o :: before, [], by simp⟩ hpart, hbody⟩
  | deferred _ _ => cases hd

theorem exists_deferred (h : ItemsOccupy items own) {d : Deferred}
    (hd : d ∈ items.filterMap Item.deferred?) :
    ∃ x line, x.kind.StartsDeferred ∧ x :: line <:+: own ∧ Frames (x :: line) d.span := by
  obtain ⟨i, hi, hd⟩ := List.mem_filterMap.mp hd
  obtain ⟨part, hpart, h⟩ := h.exists_stretch hi
  cases h with
  | declared _ _ _ _ => cases hd
  | deferred hx h =>
    cases hd
    exact ⟨_, _, hx, hpart, h⟩

end ItemsOccupy

/-- The names, the bodies and the items of a module that are not read are placed in the tokens,
and those of each list follow one another. -/
structure Module.PlacedIn (tokens : List Token) (m : Module) : Prop where
  binders : ∀ d ∈ m.declarations, ∃ x ∈ tokens, Identifier.ofToken? x = some d.binder
  bodies : ∀ d ∈ m.declarations, d.body.Everywhere (Expression.PlacedIn tokens)
  deferred : ∀ d ∈ m.deferred, ∃ line, line <:+: tokens ∧ Frames line d.span
  bindersApart : (m.declarations.map (·.binder.span)).Pairwise fun a b => a.stop ≤ b.start
  bodiesApart : (m.declarations.map (·.body.span)).Pairwise fun a b => a.stop ≤ b.start
  deferredApart : (m.deferred.map (·.span)).Pairwise fun a b => a.stop ≤ b.start

theorem ItemsOccupy.placedIn {items : List Item} {own tokens : List Token} {m : Module}
    (h : ItemsOccupy items own) (hdeclarations : m.declarations = items.filterMap Item.declaration?)
    (hdeferred : m.deferred = items.filterMap Item.deferred?) (hown : own <:+: tokens)
    (horder : Token.InOrder tokens) : m.PlacedIn tokens where
  binders d hd := by
    obtain ⟨⟨x, hx, hbinder⟩, -⟩ := h.exists_declaration (hdeclarations ▸ hd)
    exact ⟨x, hown.subset hx, hbinder⟩
  bodies d hd := by
    obtain ⟨-, part, hpart, hbody⟩ := h.exists_declaration (hdeclarations ▸ hd)
    exact hbody.everywhere horder (hpart.trans hown)
  deferred d hd := by
    obtain ⟨x, line, -, hline, hframes⟩ := h.exists_deferred (hdeferred ▸ hd)
    exact ⟨x :: line, hline.trans hown, hframes⟩
  bindersApart := hdeclarations ▸ h.binders.pairwise (horder.of_infix hown)
  bodiesApart := hdeclarations ▸ h.bodies.pairwise (horder.of_infix hown)
  deferredApart := hdeferred ▸ h.deferred.pairwise (horder.of_infix hown)

/-! ### The theorem -/

section

variable {tokens : List Token} {fixities : FixityTable} (hs : (TokenStream.ofList tokens).Orderly)
include hs

theorem everywhere_of_parseExpression {e : Expression}
    (h : parseExpression tokens fixities = .ok e) : e.Everywhere (PlacedIn tokens) := by
  obtain ⟨_, t, hlies⟩ := (Parser.wholeExpression_lies fixities hs.ends).exists_of_run' h
  obtain ⟨before, own, after, hr, -, hoccupies, -⟩ := hlies
  refine hoccupies.everywhere hs.inOrder ?_
  have hahead : tokens = _ := hr.ahead
  exact ⟨before, after ++ t.ahead, by simp [hahead]⟩

/-- The items of a module take up a stretch of the tokens. -/
theorem exists_itemsOccupy_of_parseModule {m : Module} (h : parseModule tokens fixities = .ok m) :
    ∃ items own, own <:+: tokens ∧ ItemsOccupy items own ∧
      m.declarations = items.filterMap Item.declaration? ∧
      m.deferred = items.filterMap Item.deferred? := by
  obtain ⟨t, hmodule⟩ := (Parser.module_reads fixities hs.ends).exists_of_run' h
  obtain ⟨items, front, own, hr, -, hitems⟩ := hmodule.occupies hs.ends
  have hahead : tokens = _ := hr.ahead
  exact ⟨items, own, ⟨front, t.ahead, by simp [hahead]⟩, hitems⟩

theorem placedIn_of_parseModule {m : Module} (h : parseModule tokens fixities = .ok m) :
    m.PlacedIn tokens := by
  obtain ⟨items, own, hown, hitems, hdeclarations, hdeferred⟩ :=
    exists_itemsOccupy_of_parseModule hs h
  exact hitems.placedIn hdeclarations hdeferred hown hs.inOrder

/-- An item that is not read is a stretch of the tokens that starts with a word. -/
theorem exists_line_of_parseModule {m : Module} (h : parseModule tokens fixities = .ok m)
    {d : Deferred} (hd : d ∈ m.deferred) :
    ∃ x line, x.kind.StartsDeferred ∧ x :: line <:+: tokens ∧ Frames (x :: line) d.span := by
  obtain ⟨items, own, hown, hitems, -, hdeferred⟩ := exists_itemsOccupy_of_parseModule hs h
  obtain ⟨x, line, hx, hline, hframes⟩ := hitems.exists_deferred (hdeferred ▸ hd)
  exact ⟨x, line, hx, hline.trans hown, hframes⟩

end

/-- A parser that finishes merges no spans that are out of order. -/
theorem Parser.Finishes.ne_disorder {α : Type} {p : Parser α} {tokens : List Token}
    (h : p.Finishes (.ofList tokens)) (d : Span.Disorder) :
    p.run' tokens ≠ .error (.disorder d) := by
  intro hrun
  rw [run'] at hrun
  split at hrun
  · cases hrun
  · next hp =>
    cases hrun
    exact h.of_error hp

/-- On the tokens of a text that the lexer accepts, no spans are merged that are out of order, and
all nodes of an expression and of a module are placed in the tokens. -/
theorem placedIn_of_lexWith {named? : String → Option Char} {source : String} {tokens : List Token}
    (h : lexWith named? source = .ok tokens) (fixities : FixityTable) :
    (∀ d, parseExpression tokens fixities ≠ .error (.disorder d)) ∧
      (∀ d, parseModule tokens fixities ≠ .error (.disorder d)) ∧
      (∀ e, parseExpression tokens fixities = .ok e → e.Everywhere (PlacedIn tokens)) ∧
      ∀ m, parseModule tokens fixities = .ok m → m.PlacedIn tokens := by
  obtain ⟨hcut, init, hinit, -⟩ := cut_of_lexWith h
  have hs : (TokenStream.ofList tokens).Orderly :=
    ⟨⟨_, hinit ▸ List.mem_append_right init List.mem_cons_self, rfl⟩, hcut.inOrder⟩
  exact ⟨(Parser.wholeExpression_finishes fixities hs).ne_disorder,
    (Parser.module_finishes fixities hs).ne_disorder, fun _ => everywhere_of_parseExpression hs,
    fun _ => placedIn_of_parseModule hs⟩

/-- The tokens of `f (x, 1)` are read, and all nodes of the expression are placed in them. -/
theorem placedIn_of_pair :
    let tokens : List Token :=
      [⟨.identifier "f", ⟨0, 0, 0⟩, ⟨1, 0, 1⟩⟩, ⟨.symbol .openRound, ⟨2, 0, 2⟩, ⟨3, 0, 3⟩⟩,
        ⟨.identifier "x", ⟨3, 0, 3⟩, ⟨4, 0, 4⟩⟩, ⟨.symbol .comma, ⟨4, 0, 4⟩, ⟨5, 0, 5⟩⟩,
        ⟨.number "1", ⟨6, 0, 6⟩, ⟨7, 0, 7⟩⟩, ⟨.symbol .closeRound, ⟨7, 0, 7⟩, ⟨8, 0, 8⟩⟩,
        ⟨.endOfInput, ⟨8, 0, 8⟩, ⟨8, 0, 8⟩⟩]
    ∃ e, lex "f (x, 1)" = .ok tokens ∧ parseExpression tokens .standard = .ok e ∧
      e.Everywhere (PlacedIn tokens) := by
  intro tokens
  have hlex : lex "f (x, 1)" = .ok tokens := by decide +kernel
  have hok : (parseExpression tokens .standard).isOk := by decide +kernel
  obtain ⟨e, he⟩ := Except.exists_ok_of_isOk hok
  obtain ⟨-, -, hplaced, -⟩ := placedIn_of_lexWith hlex .standard
  exact ⟨e, hlex, he, hplaced e he⟩

end Frontend
