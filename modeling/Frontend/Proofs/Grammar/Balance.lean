import Frontend.Proofs.Grammar.Acceptance
import Frontend.Proofs.Grammar.ModuleOccupation
import Frontend.Proofs.Grammar.Yield
import Frontend.Proofs.Token.Tiling

/-!
# The brackets of modules

The brackets of an expression that is read are matched, and so are those of a header, of imports
and of declarations. A line that is not read may have brackets of any kind, and if it opens one
that it does not close, the lines behind it belong to it. So the brackets of a module are matched
just if those of the lines that are not read are.
-/

namespace Frontend

open Frontend.Parser (Item)

/-! ### Expressions -/

section Parts

variable {parts : List (Expression × List Token)} {own : List Token}

theorem Joined.matched (h : Joined parts own) (hparts : ∀ p ∈ parts, Matched p.2) :
    Matched own := by
  induction h with
  | last => exact hparts _ List.mem_cons_self
  | @cons p _ before after own comma hbefore hcomma hafter _ ih =>
    obtain ⟨hp, hrest⟩ := List.forall_mem_cons.mp hparts
    have hcomma' : Matched [comma] := .of_kind hcomma rfl rfl
    exact hp.append (hbefore.gap.matched.append
      (hcomma'.append (hafter.gap.matched.append (ih hrest))))

theorem Interleaved.matched (h : Interleaved parts own) (hparts : ∀ p ∈ parts, Matched p.2) :
    Matched own := by
  induction h with
  | nil => exact .nil
  | @cons p _ before after own o c text ho hbefore hafter hc _ _ ih =>
    obtain ⟨hp, hrest⟩ := List.forall_mem_cons.mp hparts
    obtain ⟨htext, hrest⟩ := List.forall_mem_cons.mp hrest
    have hinner := hbefore.gap.matched.append (hp.append hafter.gap.matched)
    have hvalue := hinner.enclose ho hc rfl rfl
    simpa using hvalue.append (htext.append (ih hrest))

end Parts

theorem TokenKind.matched_of_isLeaf {t : Token} (h : t.kind.isLeaf) : Matched [t] := by
  cases hk : t.kind <;> first | exact .of_kind hk rfl rfl | simp [hk, isLeaf] at h

theorem TokenKind.matched_of_isText {t : Token} (h : t.kind.isText) : Matched [t] :=
  matched_of_isLeaf (isLeaf_of_isText h)

/-- The brackets of an expression are matched. -/
theorem Expression.Occupies.matched {e : Expression} {own : List Token} (h : e.Occupies own) :
    Matched own := by
  induction h with
  | leaf ht => exact TokenKind.matched_of_isLeaf ht
  | application _ hbetween _ ihcallee ihargument =>
    exact ihcallee.append (hbetween.gap.matched.append ihargument)
  | @operation o _ _ _ _ _ _ _ hbefore ho hafter _ ihleft ihright =>
    have hoperator : Matched [o] := by
      rcases ho with ho | ho
      · obtain ⟨name, ho⟩ := TokenKind.isOperator_iff.mp ho
        exact .of_kind ho rfl rfl
      · exact .of_kind ho rfl rfl
    exact ihleft.append (hbefore.gap.matched.append
      (hoperator.append (hafter.gap.matched.append ihright)))
  | tuple _ hown ih => exact hown.matched ih
  | interpolation htext _ hown ih =>
    exact (TokenKind.matched_of_isText htext).append (hown.matched ih)
  | unit ho hc => exact Matched.nil.enclose ho hc rfl rfl
  | round ho hbefore _ hafter hc ih =>
    have hinner := hbefore.gap.matched.append (ih.append hafter.gap.matched)
    exact hinner.enclose ho hc rfl rfl
  | emptyList ho hbetween hc => exact hbetween.gap.matched.enclose ho hc rfl rfl
  | list ho hbefore _ hown hafter hc ih =>
    have hinner := hbefore.gap.matched.append ((hown.matched ih).append hafter.gap.matched)
    exact hinner.enclose ho hc rfl rfl

/-! ### Modules -/

/-- The items settle open brackets as the lines do that are not read. -/
theorem ItemsOccupy.exists_lines {items : List Item} {own : List Token}
    (h : ItemsOccupy items own) :
    ∃ lines : List (List Token),
      List.Forall₂ (fun line (d : Deferred) => line <:+: own ∧ Frames line d.span) lines
        (items.filterMap Item.deferred?) ∧ Alike own lines.flatten := by
  induction h with
  | nil => exact ⟨[], .nil, .refl []⟩
  | @cons i items own gap more hi hgap _ ih =>
    obtain ⟨lines, hlines, halike⟩ := ih
    have hlines' : List.Forall₂ (fun line (d : Deferred) => line <:+: own ++ (gap ++ more) ∧
        Frames line d.span) lines (items.filterMap Item.deferred?) :=
      hlines.imp fun _ _ h => ⟨h.1.trans ⟨own ++ gap, [], by simp⟩, h.2⟩
    have hmore : Alike (gap ++ more) lines.flatten := hgap.matched.alike.append halike
    cases hi with
    | @declared x o _ _ _ _ hx ho hbefore hbody =>
      -- What is read is matched, so that it can be left out.
      have hequals : Matched [o] := .of_kind ho rfl rfl
      have hown := (ModuleGrammar.matched_of_ofToken? hx).append
        (hequals.append (hbefore.gap.matched.append hbody.matched))
      exact ⟨lines, hlines', hown.alike.append hmore⟩
    | deferred _ hframes =>
      exact ⟨_ :: lines, .cons ⟨⟨[], _, rfl⟩, hframes⟩ hlines', (Alike.refl _).append hmore⟩

/-- The stretches of the lines of a module that are not read. -/
def Module.DeferredLines (tokens : List Token) (m : Module) (lines : List (List Token)) : Prop :=
  List.Forall₂ (fun line d => line <:+: tokens ∧ Frames line d.span) lines m.deferred

theorem exists_deferredLines {init : List Token} {stop : Token} {fixities : FixityTable}
    {m : Module} (hstop : stop.kind = .endOfInput) (hinit : ∀ t ∈ init, t.kind ≠ .endOfInput)
    (hm : parseModule (init ++ [stop]) fixities = .ok m) :
    ∃ lines, m.DeferredLines (init ++ [stop]) lines ∧ Alike (init ++ [stop]) lines.flatten := by
  have hs : (TokenStream.ofList (init ++ [stop])).Ends :=
    ⟨stop, List.mem_append_right init List.mem_cons_self, hstop⟩
  obtain ⟨t, hmodule⟩ := (Parser.module_reads fixities hs).exists_of_run' hm
  obtain ⟨items, front, own, hr, hfront, hitems, -, hdeferred⟩ := hmodule.occupies hs
  have hends := hr.ends hs
  rw [TokenStream.ofList_concat] at hr
  obtain ⟨rfl, -⟩ := hr.eq_of_concat hends hmodule.current hstop hinit
  obtain ⟨lines, hlines, halike⟩ := hitems.exists_lines
  have hlast : Matched [stop] := .of_kind hstop rfl rfl
  refine ⟨lines, ?_, by simpa using (hfront.alike.append halike).append hlast.alike⟩
  rw [Module.DeferredLines, hdeferred]
  exact hlines.imp fun _ _ h => ⟨h.1.trans ⟨front, [stop], rfl⟩, h.2⟩

/-! ### The theorem -/

/-- The brackets of a text that is accepted as a module are matched just if those of its lines
that are not read are. -/
theorem exists_lines_matched_iff {named? : String → Option Char} {source : String}
    {tokens : List Token} (h : lexWith named? source = .ok tokens) {fixities : FixityTable}
    {m : Module} (hm : parseModule tokens fixities = .ok m) :
    ∃ lines, m.DeferredLines tokens lines ∧ (Matched tokens ↔ Matched lines.flatten) := by
  obtain ⟨-, init, rfl, hinit⟩ := cut_of_lexWith h
  obtain ⟨lines, hlines, halike⟩ := exists_deferredLines rfl hinit hm
  exact ⟨lines, hlines, halike.matched_iff⟩

/-- The tokens of a module with the line `data X = (` and a declaration on the next line. -/
def Module.openDataTokens : List Token :=
  [⟨.symbol .moduleWord, ⟨0, 0, 0⟩, ⟨6, 0, 6⟩⟩, ⟨.identifier "M", ⟨7, 0, 7⟩, ⟨8, 0, 8⟩⟩,
    ⟨.lineBreak, ⟨8, 0, 8⟩, ⟨9, 1, 0⟩⟩, ⟨.symbol .dataWord, ⟨9, 1, 0⟩, ⟨13, 1, 4⟩⟩,
    ⟨.identifier "X", ⟨14, 1, 5⟩, ⟨15, 1, 6⟩⟩, ⟨.symbol .equals, ⟨16, 1, 7⟩, ⟨17, 1, 8⟩⟩,
    ⟨.symbol .openRound, ⟨18, 1, 9⟩, ⟨19, 1, 10⟩⟩, ⟨.identifier "main", ⟨20, 2, 0⟩, ⟨24, 2, 4⟩⟩,
    ⟨.symbol .equals, ⟨25, 2, 5⟩, ⟨26, 2, 6⟩⟩, ⟨.number "1", ⟨27, 2, 7⟩, ⟨28, 2, 8⟩⟩,
    ⟨.endOfInput, ⟨29, 3, 0⟩, ⟨29, 3, 0⟩⟩]

theorem Module.lex_openDataTokens :
    lex "module M\ndata X = (\nmain = 1\n" = .ok openDataTokens := by
  decide +kernel

theorem Module.exists_parseModule_openDataTokens :
    ∃ m, parseModule openDataTokens .standard = .ok m :=
  Except.exists_ok_of_isOk (by decide +kernel)

theorem Module.not_matched_openDataTokens : ¬ Matched openDataTokens := by
  rw [matched_iff_settle]
  decide

/-- The line with the open bracket is not read, and its brackets are not matched. -/
theorem exists_line_not_matched :
    ∃ m lines, parseModule Module.openDataTokens .standard = .ok m ∧
      m.DeferredLines Module.openDataTokens lines ∧ ¬ Matched lines.flatten := by
  obtain ⟨m, hm⟩ := Module.exists_parseModule_openDataTokens
  obtain ⟨lines, hlines, hiff⟩ := exists_lines_matched_iff Module.lex_openDataTokens hm
  exact ⟨m, lines, hm, hlines, mt hiff.mpr Module.not_matched_openDataTokens⟩

/-- The module is accepted, and its brackets are not matched. -/
theorem exists_module_not_matched :
    ∃ tokens m, lex "module M\ndata X = (\nmain = 1\n" = .ok tokens ∧
      parseModule tokens .standard = .ok m ∧ ¬ Matched tokens := by
  obtain ⟨m, hm⟩ := Module.exists_parseModule_openDataTokens
  exact ⟨_, m, Module.lex_openDataTokens, hm, Module.not_matched_openDataTokens⟩

end Frontend
