import Frontend.Proofs.Token.Arrangement
import Frontend.Proofs.Tree.Nodes
import Frontend.Proofs.Tree.Spelling

/-!
# The tokens that expressions occupy

`e.Occupies own` says that the expression `e` takes up the stretch of tokens `own`, from the first
to the last one that is consumed for it, with its brackets and what stands between its parts. Each
node then has the span that its stretch frames, and the stretches of its parts follow one another
within its own (`Expression.PlacedIn`).
-/

namespace Frontend

open Expression (extent)

/-- Line breaks and indentations. -/
def Layout (tokens : List Token) : Prop :=
  ∀ t ∈ tokens, t.kind = .lineBreak ∨ t.kind.isIndentation

theorem Layout.nil : Layout [] := nofun

theorem Layout.append {tokens more : List Token} (h : Layout tokens) (h' : Layout more) :
    Layout (tokens ++ more) :=
  fun t ht => (List.mem_append.mp ht).elim (h t) (h' t)

/-! ### Stretches -/

/-- Expressions with their stretches, and commas between them. -/
inductive Joined : List (Expression × List Token) → List Token → Prop
  | last {p : Expression × List Token} : Joined [p] p.2
  | cons {p : Expression × List Token} {rest : List (Expression × List Token)}
      {before after own : List Token} {comma : Token} (hbefore : Layout before)
      (hcomma : comma.kind = .symbol .comma) (hafter : Layout after) (hrest : Joined rest own) :
      Joined (p :: rest) (p.2 ++ (before ++ comma :: (after ++ own)))

/-- Expressions inside of a text literal with their stretches, between the brackets of an
interpolation and each with the text behind it. -/
inductive Interleaved : List (Expression × List Token) → List Token → Prop
  | nil : Interleaved [] []
  | cons {p : Expression × List Token} {rest : List (Expression × List Token)}
      {before after own : List Token} {o c text : Token}
      (ho : o.kind = .symbol .interpolationOpen) (hbefore : Layout before) (hafter : Layout after)
      (hc : c.kind = .symbol .interpolationClose) (htext : text.kind.isText)
      (hrest : Interleaved rest own) :
      Interleaved (p :: (.factor text text.span, [text]) :: rest)
        (o :: (before ++ (p.2 ++ (after ++ c :: text :: own))))

namespace Expression

/-- The expression takes up a stretch of tokens. -/
inductive Occupies : Expression → List Token → Prop
  | leaf {t : Token} (ht : t.kind.isLeaf) : Occupies (.factor t t.span) [t]
  | application {callee argument : Expression} {own between own' : List Token}
      (hcallee : Occupies callee own) (hbetween : Layout between)
      (hargument : Occupies argument own') :
      Occupies (.application callee argument ⟨callee.span.start, argument.span.stop⟩)
        (own ++ (between ++ own'))
  | operation {o : Token} {left right : Expression} {own before after own' : List Token}
      (hleft : Occupies left own) (hbefore : Layout before)
      (ho : o.kind.isOperator ∨ o.kind = .symbol .dotAccess) (hafter : Layout after)
      (hright : Occupies right own') :
      Occupies (.operation o left right ⟨left.span.start, right.span.stop⟩)
        (own ++ (before ++ o :: (after ++ own')))
  | tuple {first : Expression × List Token} {rest : List (Expression × List Token)}
      {own : List Token} (hparts : ∀ p ∈ first :: rest, Occupies p.1 p.2)
      (hown : Joined (first :: rest) own) :
      Occupies (.tuple (first.1 :: rest.map Prod.fst) (extent first.1 (rest.map Prod.fst))) own
  | interpolation {text : Token} {rest : List (Expression × List Token)} {own : List Token}
      (htext : text.kind.isText) (hparts : ∀ p ∈ rest, Occupies p.1 p.2)
      (hown : Interleaved rest own) :
      Occupies (.interpolation (.factor text text.span :: rest.map Prod.fst)
        (extent (.factor text text.span) (rest.map Prod.fst))) (text :: own)
  | unit {o c : Token} (ho : o.kind = .symbol .openRound) (hc : c.kind = .symbol .closeRound) :
      Occupies (.tuple [] ⟨o.span.start, c.span.stop⟩) [o, c]
  | round {e : Expression} {before own after : List Token} {o c : Token}
      (ho : o.kind = .symbol .openRound) (hbefore : Layout before) (h : Occupies e own)
      (hafter : Layout after) (hc : c.kind = .symbol .closeRound) :
      Occupies (e.withSpan ⟨o.span.start, c.span.stop⟩) (o :: (before ++ (own ++ after) ++ [c]))
  | emptyList {between : List Token} {o c : Token} (ho : o.kind = .symbol .openCurly)
      (hbetween : Layout between) (hc : c.kind = .symbol .closeCurly) :
      Occupies (.list [] ⟨o.span.start, c.span.stop⟩) (o :: (between ++ [c]))
  | list {first : Expression × List Token} {rest : List (Expression × List Token)}
      {before own after : List Token} {o c : Token} (ho : o.kind = .symbol .openCurly)
      (hbefore : Layout before) (hparts : ∀ p ∈ first :: rest, Occupies p.1 p.2)
      (hown : Joined (first :: rest) own) (hafter : Layout after)
      (hc : c.kind = .symbol .closeCurly) :
      Occupies (.list (first.1 :: rest.map Prod.fst) ⟨o.span.start, c.span.stop⟩)
        (o :: (before ++ (own ++ after) ++ [c]))

end Expression

/-! ### Parts of a stretch -/

section Parts

variable {p : Expression × List Token} {first : Expression × List Token}
  {rest parts : List (Expression × List Token)} {own : List Token}

theorem Joined.within (h : Joined parts own) (hp : p ∈ parts) : p.2 <:+: own := by
  induction h with
  | last => exact List.mem_singleton.mp hp ▸ List.infix_rfl
  | @cons q _ before after own comma _ _ _ _ ih =>
    rcases List.mem_cons.mp hp with rfl | hp
    · exact ⟨[], _, rfl⟩
    · exact (ih hp).trans ⟨q.2 ++ (before ++ comma :: after), [], by simp⟩

theorem Interleaved.within (h : Interleaved parts own) (hp : p ∈ parts) : p.2 <:+: own := by
  induction h with
  | nil => cases hp
  | @cons q _ before after own o c text _ _ _ _ _ _ ih =>
    rcases List.mem_cons.mp hp with rfl | hp
    · exact ⟨o :: before, after ++ c :: text :: own, by simp⟩
    rcases List.mem_cons.mp hp with rfl | hp
    · exact ⟨o :: (before ++ (q.2 ++ (after ++ [c]))), own, by simp⟩
    · exact (ih hp).trans ⟨o :: (before ++ (q.2 ++ (after ++ [c, text]))), [], by simp⟩

/-- The parts of a sequence are arranged in its stretch, which frames them all. -/
theorem Joined.arranged (h : Joined (first :: rest) own)
    (hparts : ∀ p ∈ first :: rest, Frames p.2 p.1.span) :
    Frames own (extent first.1 (rest.map Prod.fst)) ∧
      Arranged own (((first :: rest).map Prod.fst).map Expression.span) := by
  induction rest generalizing first own with
  | nil =>
    cases h with
    | last =>
      have hfirst := hparts first List.mem_cons_self
      exact ⟨hfirst, .single hfirst⟩
    | cons _ _ _ hrest => cases hrest
  | cons second rest ih =>
    cases h with
    | @cons _ _ before after own comma _ _ _ hrest =>
      have hfirst := hparts first List.mem_cons_self
      obtain ⟨hframes, harranged⟩ := ih hrest fun p hp => hparts p (List.mem_cons_of_mem _ hp)
      constructor
      · simpa [Expression.extent_cons] using hfirst.append (before ++ comma :: after) hframes
      · simpa using (Arranged.single hfirst).append (harranged.prepend (before ++ comma :: after))

/-- The segments behind a text are arranged in their stretch, which frames them with the text. -/
theorem Interleaved.arranged (h : Interleaved parts own)
    (hparts : ∀ p ∈ parts, Frames p.2 p.1.span) (text : Token) :
    Frames (text :: own) (extent (.factor text text.span) (parts.map Prod.fst)) ∧
      Arranged own ((parts.map Prod.fst).map Expression.span) := by
  induction h generalizing text with
  | nil => exact ⟨.token text, .nil⟩
  | @cons p rest before after own o c text' _ _ _ _ _ _ ih =>
    have hp := hparts p List.mem_cons_self
    obtain ⟨hframes, harranged⟩ := ih (fun q hq =>
      hparts q (List.mem_cons_of_mem _ (List.mem_cons_of_mem _ hq))) text'
    constructor
    · have h := (Frames.token text).append (o :: (before ++ (p.2 ++ (after ++ [c])))) hframes
      simpa [Expression.extent_cons, Expression.span] using h
    · have htext := (Arranged.single (.token text')).append harranged
      have h := (Arranged.single hp).append (htext.prepend (after ++ [c]))
      simpa [Expression.span_factor] using h.prepend (o :: before)

end Parts

namespace Expression

/-- The spans of the expressions right below the outermost node, and of the operator between them,
from left to right. -/
def partSpans : Expression → List Span
  | factor _ _            => []
  | application f a _     => [f.span, a.span]
  | operation o l r _     => [l.span, o.span, r.span]
  | tuple elements _      => elements.map span
  | list elements _       => elements.map span
  | interpolation parts _ => parts.map span

@[simp] theorem partSpans_withSpan (e : Expression) (s : Span) :
    (e.withSpan s).partSpans = e.partSpans := by
  cases e <;> rfl

namespace Occupies

variable {e : Expression} {own tokens : List Token}

/-- The stretch of an expression frames its span, and the parts are arranged in it. -/
theorem frames_arranged (h : e.Occupies own) : Frames own e.span ∧ Arranged own e.partSpans := by
  induction h with
  | leaf _ => exact ⟨.token _, .nil⟩
  | @application _ _ _ between _ _ _ _ ihcallee ihargument =>
    exact ⟨ihcallee.1.append between ihargument.1, .pair ihcallee.1 between ihargument.1⟩
  | @operation o _ _ _ before after _ _ _ _ _ _ ihleft ihright =>
    have hright := Arranged.pair (.token o) after ihright.1
    constructor
    · simpa [span] using ihleft.1.append (before ++ o :: after) ihright.1
    · simpa [partSpans] using (Arranged.single ihleft.1).append (hright.prepend before)
  | tuple _ hown ih => exact hown.arranged fun p hp => (ih p hp).1
  | @interpolation text _ _ _ _ hown ih =>
    obtain ⟨hframes, harranged⟩ := hown.arranged (fun p hp => (ih p hp).1) text
    exact ⟨hframes, (Arranged.single (.token text)).append harranged⟩
  | @unit o c _ _ => exact ⟨.enclose o [] c, .nil⟩
  | @round e before own after o c _ _ _ _ _ ih =>
    refine ⟨?_, ?_⟩
    · rw [span_withSpan]
      exact .enclose o (before ++ (own ++ after)) c
    · rw [partSpans_withSpan]
      exact (((ih.2.extend after).prepend before).extend [c]).prepend [o]
  | @emptyList between o c _ _ _ => exact ⟨.enclose o between c, .nil⟩
  | @list first rest before own after o c _ _ _ hown _ _ ih =>
    obtain ⟨-, harranged⟩ := hown.arranged fun p hp => (ih p hp).1
    exact ⟨.enclose o (before ++ (own ++ after)) c,
      (((harranged.extend after).prepend before).extend [c]).prepend [o]⟩

/-- The tokens of the outermost node are in the stretch. -/
theorem nodeTokens_subset (h : e.Occupies own) : e.nodeTokens ⊆ own := by
  induction h with
  | leaf _ => exact List.Subset.refl _
  | operation _ _ _ _ _ _ _ => simp [nodeTokens]
  | round _ _ _ _ _ ih =>
    rw [nodeTokens_withSpan]
    exact fun t ht => by simp [ih ht]
  | _ => exact List.nil_subset _

end Occupies

/-! ### Places -/

/-- The expression takes up a stretch of the tokens that frames its span. Its parts lie inside of
the span, one behind the other, with the operator between its operands. -/
structure PlacedIn (tokens : List Token) (e : Expression) : Prop where
  stretch : ∃ own, own <:+: tokens ∧ e.Occupies own ∧ Frames own e.span
  ordered : e.span.start ≤ e.span.stop
  inside : ∀ s ∈ e.partSpans, e.span.start ≤ s.start ∧ s.stop ≤ e.span.stop
  apart : e.partSpans.Pairwise fun a b => a.stop ≤ b.start

namespace Occupies

variable {e : Expression} {own tokens : List Token} (horder : Token.InOrder tokens)
include horder

theorem placedIn (h : e.Occupies own) (hown : own <:+: tokens) : e.PlacedIn tokens := by
  obtain ⟨hframes, harranged⟩ := h.frames_arranged
  have hin := horder.of_infix hown
  exact ⟨⟨own, hown, h, hframes⟩, hframes.start_le_stop hin,
    fun _ => harranged.inside hframes hin, harranged.pairwise hin⟩

/-- The expressions below the outermost node are placed in the tokens, with all that is below
them. -/
theorem everywhere_children (h : e.Occupies own) (hown : own <:+: tokens) :
    ∀ c ∈ e.children, c.Everywhere (PlacedIn tokens) := by
  have hnode {c : Expression} {part : List Token} (hc : c.Occupies part) (hpart : part <:+: tokens)
      (hbelow : ∀ d ∈ c.children, d.Everywhere (PlacedIn tokens)) :
      c.Everywhere (PlacedIn tokens) :=
    .node (hc.placedIn horder hpart) hbelow
  induction h with
  | leaf _ => nofun
  | @application _ _ own between own' hcallee _ hargument ihcallee ihargument =>
    have hl : own <:+: tokens := .trans ⟨[], _, rfl⟩ hown
    have hr : own' <:+: tokens := .trans ⟨own ++ between, [], by simp⟩ hown
    exact List.forall_mem_cons.mpr ⟨hnode hcallee hl (ihcallee hl),
      List.forall_mem_singleton.mpr (hnode hargument hr (ihargument hr))⟩
  | @operation o _ _ own before after own' hleft _ _ _ hright ihleft ihright =>
    have hl : own <:+: tokens := .trans ⟨[], _, rfl⟩ hown
    have hr : own' <:+: tokens := .trans ⟨own ++ (before ++ o :: after), [], by simp⟩ hown
    exact List.forall_mem_cons.mpr ⟨hnode hleft hl (ihleft hl),
      List.forall_mem_singleton.mpr (hnode hright hr (ihright hr))⟩
  | @tuple first rest _ hparts hjoined ih =>
    refine (List.forall_mem_map (f := Prod.fst) (l := first :: rest)).mpr fun p hp => ?_
    have hpart := (hjoined.within hp).trans hown
    exact hnode (hparts p hp) hpart (ih p hp hpart)
  | @interpolation text _ own htext hparts hinterleaved ih =>
    have htext' : [text] <:+: tokens := .trans ⟨[], own, rfl⟩ hown
    refine List.forall_mem_cons.mpr ⟨?_, List.forall_mem_map.mpr fun p hp => ?_⟩
    · exact hnode (.leaf (TokenKind.isLeaf_of_isText htext)) htext' nofun
    · have hpart := (hinterleaved.within hp).trans (.trans ⟨[text], [], by simp⟩ hown)
      exact hnode (hparts p hp) hpart (ih p hp hpart)
  | unit _ _ => nofun
  | @round _ before _ after o c _ _ _ _ _ ih =>
    rw [children_withSpan]
    exact ih (.trans ⟨o :: before, after ++ [c], by simp⟩ hown)
  | emptyList _ _ _ => nofun
  | @list first rest before own after o c _ _ hparts hjoined _ _ ih =>
    refine (List.forall_mem_map (f := Prod.fst) (l := first :: rest)).mpr fun p hp => ?_
    have hinner : own <:+: tokens := .trans ⟨o :: before, after ++ [c], by simp⟩ hown
    have hpart := (hjoined.within hp).trans hinner
    exact hnode (hparts p hp) hpart (ih p hp hpart)

theorem everywhere (h : e.Occupies own) (hown : own <:+: tokens) :
    e.Everywhere (PlacedIn tokens) :=
  .node (h.placedIn horder hown) (h.everywhere_children horder hown)

end Occupies

end Expression

end Frontend
