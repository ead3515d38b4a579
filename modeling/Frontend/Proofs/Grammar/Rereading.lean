import Frontend.Proofs.Grammar.Language
import Frontend.Proofs.Token.Display

/-!
# Reading displays

The parser reads the tokens of a display as the expression that is displayed, whatever the fixities
of the operators are: each operation is in brackets of its own. A factor is read as a factor, and
an application as its callee with one more argument, so that what is known of the callee is said
with the arguments that are still to come (`ReadBack`).
-/

namespace Frontend

namespace Expression

/-- The first token of a display is one that a factor starts with. -/
theorem Rereadable.level_head? {named? : String → Option Char} {e : Expression}
    (h : e.Rereadable named?) : ∃ k ks, e.kinds = k :: ks ∧ k.level = 2 := by
  induction h with
  | @factor t _ ht _ _ =>
    refine ⟨t.kind, [], rfl, ?_⟩
    cases hk : t.kind <;> simp [hk, TokenKind.isLeaf, TokenKind.level] at ht ⊢
  | application _ _ _ ih _ =>
    obtain ⟨k, ks, hk, hlevel⟩ := ih
    exact ⟨k, _, by rw [kinds, hk, List.cons_append], hlevel⟩
  | operation _ _ _ _ _ _ => exact ⟨_, _, rfl, rfl⟩
  | member _ _ _ _ _ _ => exact ⟨_, _, rfl, rfl⟩
  | tuple _ _ _ => exact ⟨_, _, rfl, rfl⟩
  | list _ _ => exact ⟨_, _, rfl, rfl⟩
  | interpolation hfirst _ _ _ htexts _ _ =>
    rw [kinds, kindsOfSegments_parts htexts hfirst]
    exact ⟨_, _, rfl, TokenKind.level_of_isText hfirst⟩

end Expression

namespace Parser

open Expression (bare)
open TokenKind (ne_lineBreak_of_level)
open TokenStream (before before_append before_cons)

variable {fixities : FixityTable} {e : Expression} {own : List Token} {s t : TokenStream}

/-! ### Readers that give an expression up to spans -/

/-- The reader reads an expression up to a place, and gives it with other spans. -/
def Rereads (p : Nat → Parser (Option Expression)) (s : TokenStream) (e : Expression)
    (t : TokenStream) : Prop :=
  Accepts p s (Gives fun e' u => e'.bare = e.bare ∧ u = t)

namespace Rereads

theorem application (h : Rereads (factorWithin fixities) s e t) (ht : 2 < t.current.kind.level) :
    Rereads (applicationWithin fixities) s e t :=
  accepts_application_alone ht h

theorem binary (h : Rereads (applicationWithin fixities) s e t) (ht : 3 < t.current.kind.level) :
    Rereads (binaryWithin fixities · 0) s e t :=
  accepts_binary_alone ht h

theorem expression (h : Rereads (binaryWithin fixities · 0) s e t)
    (ht : 4 < t.current.kind.level) : Rereads (expressionWithin fixities) s e t :=
  accepts_expression_alone ht h

end Rereads

/-- The tokens of a display are read as what is displayed, by the reader of factors if it is no
application, and by the reader of applications with the arguments behind it. -/
structure ReadBack (fixities : FixityTable) (e : Expression) : Prop where
  factor : ∀ own t, own.map (·.kind) = e.kinds → 1 < t.current.kind.level →
    e.isApplication = false → Rereads (factorWithin fixities) (before own t) e t
  application : ∀ own t R, own.map (·.kind) = e.kinds → 1 < t.current.kind.level →
    (∀ e', e'.bare = e.bare → Accepts (argumentsWithin fixities · e') t R) →
    Accepts (applicationWithin fixities) (before own t) (Gives R)

theorem ReadBack.of_factor
    (h : ∀ own t, own.map (·.kind) = e.kinds → 1 < t.current.kind.level →
      Rereads (factorWithin fixities) (before own t) e t) : ReadBack fixities e where
  factor own t hown ht _ := h own t hown ht
  application own t R hown ht harguments := by
    refine accepts_application ((h own t hown ht).imp ?_)
    rintro e' _ ⟨he', rfl⟩
    exact harguments e' he'

theorem ReadBack.rereads (h : ReadBack fixities e) (hown : own.map (·.kind) = e.kinds)
    (ht : 2 < t.current.kind.level) : Rereads (applicationWithin fixities) (before own t) e t := by
  refine h.application own t _ hown (Nat.lt_of_succ_lt ht) fun e' he' => ?_
  exact accepts_arguments_end (fun _ => ⟨ne_lineBreak_of_level (by omega),
    TokenKind.startsFactor_eq_false_of_level (Nat.ne_of_gt ht)⟩) ⟨he', rfl⟩

/-! ### Factors -/

/-- An expression in round brackets. -/
theorem rereads_round {o c : Token} (ho : o.kind = .symbol .openRound)
    (hc : c.kind = .symbol .closeRound) (ht : 1 < t.current.kind.level)
    (hown : (before own (before [c] t)).current.kind ≠ .symbol .closeRound)
    (h : Rereads (expressionWithin fixities) (before own (before [c] t)) e (before [c] t)) :
    Rereads (factorWithin fixities) (before (o :: (own ++ [c])) t) e t := by
  have hprimary : Rereads (primaryWithin fixities) (before (o :: (own ++ [c])) t) e t := by
    rw [before_cons, before_append]
    refine accepts_primary_round ho (accepts_round hown (h.imp ?_))
    rintro e' _ ⟨he', rfl⟩
    exact ⟨c, t.ahead, t.last, rfl, hc, by rw [Expression.bare_withSpan, he'], rfl⟩
  refine accepts_factor_alone ?_ ht hprimary
  exact fun hbreak => by simp [before_cons, ho] at hbreak

/-- Tokens between two brackets. -/
theorem exists_enclosed {first last : TokenKind} {ks : List TokenKind}
    (hown : own.map (·.kind) = first :: ks ++ [last]) : ∃ o inner c, own = o :: (inner ++ [c]) ∧
      o.kind = first ∧ inner.map (·.kind) = ks ∧ c.kind = last := by
  rw [List.cons_append, List.map_eq_cons_iff] at hown
  obtain ⟨o, rest, rfl, ho, hrest⟩ := hown
  obtain ⟨inner, ending, rfl, hinner, hending⟩ := List.map_eq_append_iff.mp hrest
  obtain ⟨c, nothing, rfl, hc, hnothing⟩ := List.map_eq_cons_iff.mp hending
  obtain rfl := List.map_eq_nil_iff.mp hnothing
  exact ⟨o, inner, c, rfl, ho, hinner, hc⟩

/-- The first token of the tokens of a display. -/
theorem level_current {named? : String → Option Char} (h : e.Rereadable named?)
    (hown : own.map (·.kind) = e.kinds) (t : TokenStream) :
    (before own t).current.kind.level = 2 := by
  obtain ⟨k, ks, hk, hlevel⟩ := h.level_head?
  rw [hk, List.map_eq_cons_iff] at hown
  obtain ⟨x, rest, rfl, rfl, -⟩ := hown
  exact hlevel

theorem ne_of_level {k k' : TokenKind} (h : k.level ≠ k'.level) : k ≠ k' := by
  rintro rfl
  exact h rfl

theorem level_before {x : Token} {k : TokenKind} (hx : x.kind = k) (own : List Token)
    (t : TokenStream) : (before (x :: own) t).current.kind.level = k.level := by
  rw [← hx]
  rfl

namespace ReadBack

variable {named? : String → Option Char}

theorem leaf {x : Token} {span : Span} (hx : x.kind.isLeaf) :
    ReadBack fixities (.factor x span) := by
  refine .of_factor fun own t hown ht => ?_
  obtain ⟨y, nothing, rfl, hy, hnothing⟩ := List.map_eq_cons_iff.mp hown
  obtain rfl := List.map_eq_nil_iff.mp hnothing
  have hbare : (Expression.factor y y.span).bare = (Expression.factor x span).bare := by
    rw [bare, bare, hy]
  have hbreak : y.kind ≠ .lineBreak := by
    rw [hy]
    intro hbreak
    simp [hbreak, TokenKind.isLeaf] at hx
  refine accepts_factor_alone hbreak ht ?_
  rw [← hy] at hx
  cases hk : y.kind with
  | identifier name => exact accepts_primary_leaf (.inl (by rw [hk]; rfl)) ⟨hbare, rfl⟩
  | number digits => exact accepts_primary_leaf (.inr (.inl ⟨digits, hk⟩)) ⟨hbare, rfl⟩
  | character content => exact accepts_primary_leaf (.inr (.inr ⟨content, hk⟩)) ⟨hbare, rfl⟩
  | text content =>
    refine accepts_primary_text (by rw [hk]; rfl) (accepts_text_end ?_ ⟨hbare, rfl⟩)
    intro hopen
    replace hopen : t.current.kind = .symbol .interpolationOpen := hopen
    rw [hopen] at ht
    exact absurd ht (by decide)
  | _ => simp [hk, TokenKind.isLeaf] at hx

theorem operation {o : Token} {left right : Expression} {span : Span} (ho : o.kind.isOperator)
    (hl : left.Rereadable named?) (hleft : ReadBack fixities left)
    (hright : ReadBack fixities right) : ReadBack fixities (.operation o left right span) := by
  refine .of_factor fun own t hown ht => ?_
  obtain ⟨opening, inner, c, rfl, hopening, hinner, hc⟩ := exists_enclosed hown
  obtain ⟨ls, rest, rfl, hls, hrest⟩ := List.map_eq_append_iff.mp hinner
  obtain ⟨x, rs, rfl, hx, hrs⟩ := List.map_eq_cons_iff.mp hrest
  have hcurrent := level_current hl hls (before (x :: rs) (before [c] t))
  have hx' : (before (x :: rs) (before [c] t)).current.kind.level = 3 := by
    rw [level_before hx, TokenKind.level_of_isOperator ho]
  have hc' : (before [c] t).current.kind.level = 5 := level_before hc [] t
  rw [← hx] at ho
  refine rereads_round hopening hc ht ?_ ?_
  · rw [before_append]
    exact ne_of_level (by rw [hcurrent]; decide)
  have hlinks : Chain fixities [⟨x, fun e' => e'.bare = right.bare⟩]
      (before (x :: rs) (before [c] t)) (before [c] t) :=
    .cons ho (hright.rereads hrs (by omega))
      (.nil (ne_lineBreak_of_level (by omega)) (TokenKind.isOperator_eq_false_of_level (by omega)))
  have hbinary := accepts_binary (hleft.rereads hls (by omega)) hlinks (.singleton _)
  rw [before_append]
  refine accepts_expression (hbinary.imp ?_)
  rintro e' _ ⟨he', rfl⟩
  obtain ⟨left', right', span', rfl, hleft', hright'⟩ := he'.of_singleton
  refine ⟨ne_lineBreak_of_level (by omega), ne_of_level (by rw [hc']; decide), ?_, rfl⟩
  rw [bare, bare, hx, hleft', hright']

theorem member {o x y : Token} {xspan yspan span : Span} (ho : o.kind = .symbol .dotAccess)
    (hx : x.kind.isIdentifier) (hy : y.kind.isIdentifier) :
    ReadBack fixities (.operation o (.factor x xspan) (.factor y yspan) span) := by
  refine .of_factor fun own t hown ht => ?_
  obtain ⟨opening, inner, c, rfl, hopening, hinner, hc⟩ := exists_enclosed hown
  obtain ⟨x', rest, rfl, hx', hrest⟩ := List.map_eq_cons_iff.mp hinner
  obtain ⟨o', rest, rfl, ho', hrest⟩ := List.map_eq_cons_iff.mp hrest
  obtain ⟨y', rest, rfl, hy', hrest⟩ := List.map_eq_cons_iff.mp hrest
  obtain rfl := List.map_eq_nil_iff.mp hrest
  have hc' : (before [c] t).current.kind.level = 5 := level_before hc [] t
  have hxlevel : x'.kind.level = 2 := by rw [hx', TokenKind.level_of_isIdentifier hx]
  refine rereads_round hopening hc ht (ne_of_level ?_) ?_
  · rw [level_before rfl, hxlevel]
    decide
  have hdot : (before [c] t).current.kind ≠ .symbol .dotAccess :=
    ne_of_level (by rw [hc']; decide)
  have hfactor : Rereads (factorWithin fixities) (before [x', o', y'] (before [c] t))
      (.operation o (.factor x xspan) (.factor y yspan) span) (before [c] t) := by
    refine accepts_factor (ne_lineBreak_of_level (by rw [level_before rfl, hxlevel]; decide)) ?_
    refine accepts_primary_leaf (.inl (hx' ▸ hx)) ?_
    refine accepts_members (ho'.trans ho) (hy' ▸ hy) fun span' => ?_
    refine accepts_members_end hdot ⟨?_, rfl⟩
    simp only [bare, hx', ho', hy']
  exact ((hfactor.application (by omega)).binary (by omega)).expression (by omega)

/-- An argument, which is in brackets if it is an application. -/
theorem argument (h : ReadBack fixities e) (he : e.Rereadable named?)
    (hown : own.map (·.kind) = if e.isApplication then
      .symbol .openRound :: e.kinds ++ [.symbol .closeRound] else e.kinds)
    (ht : 1 < t.current.kind.level) : (before own t).current.kind.level = 2 ∧
      Rereads (factorWithin fixities) (before own t) e t := by
  split at hown
  · obtain ⟨o, inner, c, rfl, ho, hinner, hc⟩ := exists_enclosed hown
    have hc' : (before [c] t).current.kind.level = 5 := level_before hc [] t
    have hexpression : Rereads (expressionWithin fixities) (before inner (before [c] t)) e
        (before [c] t) :=
      ((h.rereads hinner (by omega)).binary (by omega)).expression (by omega)
    have hcurrent := level_current he hinner (before [c] t)
    exact ⟨level_before ho _ t,
      rereads_round ho hc ht (ne_of_level (by rw [hcurrent]; decide)) hexpression⟩
  · next happlication =>
    exact ⟨level_current he hown t, h.factor own t hown ht (Bool.not_eq_true _ ▸ happlication)⟩

theorem applied {callee argument : Expression} {span : Span} (hcallable : callee.isCallable)
    (ha : argument.Rereadable named?) (hcallee : ReadBack fixities callee)
    (hargument : ReadBack fixities argument) :
    ReadBack fixities (.application callee argument span) where
  factor own t _ _ happlication := by cases happlication
  application own t R hown ht harguments := by
    rw [Expression.kinds] at hown
    obtain ⟨fs, as, rfl, hfs, has⟩ := List.map_eq_append_iff.mp hown
    obtain ⟨hcurrent, hfactor⟩ := hargument.argument ha has ht
    rw [before_append]
    refine hcallee.application fs _ R hfs (by omega) fun callee' hcallee' => ?_
    have hcallable' : callee'.isCallable := by
      rw [← Expression.isCallable_bare, hcallee', Expression.isCallable_bare]
      exact hcallable
    refine accepts_arguments hcallable' (hfactor.imp ?_)
    rintro argument' _ ⟨hargument', rfl⟩ span'
    exact harguments _ (by rw [bare, bare, hcallee', hargument'])

/-- Elements behind the first one, each with the comma before it. -/
theorem elements {es : List Expression} (hes : ∀ e ∈ es, ReadBack fixities e)
    (hown : own.map (·.kind) = es.flatMap fun e => .symbol .comma :: e.kinds)
    (ht : 4 < t.current.kind.level) :
    3 < (before own t).current.kind.level ∧ Accepts (elementsWithin fixities) (before own t)
      fun es' u => es'.map bare = es.map bare ∧ u = t := by
  induction es generalizing own with
  | nil =>
    obtain rfl := List.map_eq_nil_iff.mp hown
    exact ⟨Nat.lt_of_succ_lt ht, accepts_elements_end (ne_of_level (Nat.ne_of_gt ht)) ⟨rfl, rfl⟩⟩
  | cons e es ih =>
    obtain ⟨he, hes⟩ := List.forall_mem_cons.mp hes
    obtain ⟨c, rest, rfl, hc, hrest⟩ := List.map_eq_cons_iff.mp hown
    obtain ⟨xs, ys, rfl, hxs, hys⟩ := List.map_eq_append_iff.mp hrest
    obtain ⟨hlevel, hacc⟩ := ih hes hys
    refine ⟨by rw [level_before hc]; decide, ?_⟩
    rw [before_cons, before_append]
    refine accepts_elements hc (((he.rereads hxs (by omega)).binary hlevel).imp ?_)
    rintro e' _ ⟨he', rfl⟩
    refine ⟨ne_lineBreak_of_level (by omega), hacc.mono ?_⟩
    rintro es' _ ⟨hes', rfl⟩
    exact ⟨by rw [List.map_cons, List.map_cons, he', hes'], rfl⟩

theorem tuple {es : List Expression} {span : Span} (hlength : es.length ≠ 1)
    (hr : ∀ e ∈ es, e.Rereadable named?) (hes : ∀ e ∈ es, ReadBack fixities e) :
    ReadBack fixities (.tuple es span) := by
  refine .of_factor fun own t hown ht => ?_
  obtain ⟨o, inner, c, rfl, ho, hinner, hc⟩ := exists_enclosed hown
  have hc' : (before [c] t).current.kind.level = 5 := level_before hc [] t
  match es with
  | [] =>
    obtain rfl := List.map_eq_nil_iff.mp hinner
    refine accepts_factor_alone (ne_of_level (by rw [level_before ho]; decide)) ht ?_
    exact accepts_primary_round ho (accepts_round_empty hc fun span' => ⟨rfl, rfl⟩)
  | [e] => exact absurd rfl hlength
  | e :: e₂ :: es =>
    obtain ⟨he, hes⟩ := List.forall_mem_cons.mp hes
    rw [Expression.intercalate_kindsOfAll_cons] at hinner
    obtain ⟨xs, ys, rfl, hxs, hys⟩ := List.map_eq_append_iff.mp hinner
    obtain ⟨hlevel, helements⟩ := elements hes hys (t := before [c] t) (by omega)
    have hcomma : (before ys (before [c] t)).current.kind = .symbol .comma := by
      rw [List.flatMap_cons] at hys
      obtain ⟨comma, rest, rfl, hcomma, -⟩ := List.map_eq_cons_iff.mp hys
      exact hcomma
    have hcurrent := level_current (hr e List.mem_cons_self) hxs (before ys (before [c] t))
    refine rereads_round ho hc ht ?_ ?_
    · rw [before_append]
      exact ne_of_level (by rw [hcurrent]; decide)
    rw [before_append]
    refine accepts_expression_tuple (((he.rereads hxs (by omega)).binary hlevel).imp ?_)
    rintro e' _ ⟨he', rfl⟩
    refine ⟨hcomma, helements.mono ?_⟩
    rintro es' _ ⟨hes', rfl⟩
    refine ⟨?_, rfl⟩
    rw [bare, bare, Expression.bareAll_eq_map, Expression.bareAll_eq_map, List.map_cons,
      List.map_cons, he', hes']

theorem list {es : List Expression} {span : Span} (hes : ∀ e ∈ es, ReadBack fixities e) :
    ReadBack fixities (.list es span) := by
  refine .of_factor fun own t hown ht => ?_
  obtain ⟨o, inner, c, rfl, ho, hinner, hc⟩ := exists_enclosed hown
  have hc' : (before [c] t).current.kind.level = 5 := level_before hc [] t
  refine accepts_factor_alone (ne_of_level (by rw [level_before ho]; decide)) ht ?_
  rw [before_cons, before_append]
  refine accepts_primary_curly ho ?_
  cases es with
  | nil =>
    obtain rfl := List.map_eq_nil_iff.mp hinner
    exact accepts_curly_empty hc fun span' => ⟨rfl, rfl⟩
  | cons e es =>
    obtain ⟨he, hes⟩ := List.forall_mem_cons.mp hes
    rw [Expression.intercalate_kindsOfAll_cons] at hinner
    obtain ⟨xs, ys, rfl, hxs, hys⟩ := List.map_eq_append_iff.mp hinner
    obtain ⟨hlevel, helements⟩ := elements hes hys (t := before [c] t) (by omega)
    rw [before_append]
    refine accepts_curly (((he.rereads hxs (by omega)).binary hlevel).imp ?_)
    rintro e' _ ⟨he', rfl⟩
    refine helements.mono ?_
    rintro es' _ ⟨hes', rfl⟩
    refine ⟨c, t.ahead, t.last, rfl, hc, ?_, rfl⟩
    rw [bare, bare, Expression.bareAll_eq_map, Expression.bareAll_eq_map, List.map_cons,
      List.map_cons, he', hes']

/-- Expressions in a text literal, each with the segment behind it. -/
theorem segments {parts : List (Expression × Token)} (hvalues : ∀ p ∈ parts, ReadBack fixities p.1)
    (htexts : ∀ p ∈ parts, p.2.kind.isText)
    (hown : own.map (·.kind) = parts.flatMap Expression.partKinds)
    (ht : 0 < t.current.kind.level) :
    Accepts (segmentsWithin fixities) (before own t) fun es u =>
      es.map bare = (parts.flatMap fun p => [p.1, .factor p.2 p.2.span]).map bare ∧ u = t := by
  induction parts generalizing own with
  | nil =>
    obtain rfl := List.map_eq_nil_iff.mp hown
    exact accepts_segments_end (ne_of_level (Nat.ne_of_gt ht)) ⟨rfl, rfl⟩
  | cons p parts ih =>
    obtain ⟨hvalue, hvalues⟩ := List.forall_mem_cons.mp hvalues
    obtain ⟨hp, htexts⟩ := List.forall_mem_cons.mp htexts
    rw [List.flatMap_cons] at hown
    obtain ⟨part, rest, rfl, hpart, hrest⟩ := List.map_eq_append_iff.mp hown
    obtain ⟨o, behind, rfl, ho, hbehind⟩ := List.map_eq_cons_iff.mp hpart
    obtain ⟨value, ending, rfl, hvaluekinds, hending⟩ := List.map_eq_append_iff.mp hbehind
    obtain ⟨c, ending, rfl, hc, hending⟩ := List.map_eq_cons_iff.mp hending
    obtain ⟨x, ending, rfl, hx, hending⟩ := List.map_eq_cons_iff.mp hending
    obtain rfl := List.map_eq_nil_iff.mp hending
    have hclose : (before (c :: x :: rest) t).current.kind.level = 5 := level_before hc _ t
    have hexpression : Rereads (expressionWithin fixities) (before value
        (before (c :: x :: rest) t)) p.1 (before (c :: x :: rest) t) :=
      ((hvalue.rereads hvaluekinds (by omega)).binary (by omega)).expression (by omega)
    rw [List.cons_append, List.append_assoc, before_cons, before_append]
    refine accepts_segments ho (hexpression.imp ?_)
    rintro e' _ ⟨he', rfl⟩
    refine ⟨c, x, rest ++ t.ahead, rfl, hc, hx ▸ hp, (ih hvalues htexts hrest).mono ?_⟩
    rintro es _ ⟨hes, rfl⟩
    refine ⟨?_, rfl⟩
    simp only [List.map_cons, List.flatMap_cons, List.cons_append, List.nil_append, hes, he', bare,
      hx]

theorem interpolation {first : Token} {parts : List (Expression × Token)} {span : Span}
    (hfirst : first.kind.isText) (hparts : parts ≠ [])
    (hvalues : ∀ p ∈ parts, ReadBack fixities p.1) (htexts : ∀ p ∈ parts, p.2.kind.isText) :
    ReadBack fixities (.interpolation (Expression.segments first parts) span) := by
  refine .of_factor fun own t hown ht => ?_
  rw [Expression.kinds, Expression.kindsOfSegments_parts htexts hfirst] at hown
  obtain ⟨x, rest, rfl, hx, hrest⟩ := List.map_eq_cons_iff.mp hown
  have hopen : (before rest t).current.kind = .symbol .interpolationOpen := by
    obtain ⟨p, parts, rfl⟩ := List.exists_cons_of_ne_nil hparts
    obtain ⟨o, rest, rfl, ho, -⟩ := List.map_eq_cons_iff.mp hrest
    exact ho
  refine accepts_factor_alone (ne_of_level ?_) ht ?_
  · rw [level_before hx, TokenKind.level_of_isText hfirst]
    decide
  rw [before_cons]
  refine accepts_primary_text (hx ▸ hfirst) (accepts_text hopen ?_)
  refine (segments hvalues htexts hrest (Nat.lt_of_succ_lt ht)).mono ?_
  rintro es _ ⟨hes, rfl⟩ span'
  refine ⟨?_, rfl⟩
  rw [bare, bare, Expression.bareAll_eq_map, Expression.bareAll_eq_map, Expression.segments,
    List.map_cons, List.map_cons, hes, bare, bare, hx]

end ReadBack

/-- The tokens of the display of a rereadable expression are read as that expression. -/
theorem readBack {named? : String → Option Char} (h : e.Rereadable named?) :
    ReadBack fixities e := by
  induction h with
  | factor ht _ _ => exact .leaf ht
  | application hcallable _ hargument ihcallee ihargument =>
    exact .applied hcallable hargument ihcallee ihargument
  | operation ho _ hl _ ihleft ihright => exact .operation ho hl ihleft ihright
  | member ho hx _ hy _ _ => exact .member ho hx hy
  | tuple hlength hr ih => exact .tuple hlength hr ih
  | list _ ih => exact .list ih
  | interpolation hfirst _ hparts _ htexts _ ih => exact .interpolation hfirst hparts ih htexts

/-- Tokens in the order of a source text that are the tokens of a display, with the end of input
behind them. -/
theorem exists_parseExpression_of_kinds {named? : String → Option Char} {stop : Token}
    (h : e.Rereadable named?) (hown : own.map (·.kind) = e.kinds)
    (hstop : stop.kind = .endOfInput) (horder : Token.InOrder (own ++ [stop]))
    (fixities : FixityTable) :
    ∃ e', parseExpression (own ++ [stop]) fixities = .ok e' ∧ e'.bare = e.bare := by
  have hend : (⟨[stop], stop⟩ : TokenStream).current.kind.level = 5 := by
    rw [TokenStream.current_cons, hstop]
    rfl
  have hreads : Rereads (applicationWithin fixities) (before own ⟨[stop], stop⟩) e
      ⟨[stop], stop⟩ := (readBack h).rereads hown (by omega)
  exact exists_parseExpression hstop horder ((hreads.binary (by omega)).expression (by omega))

end Parser

/-! ### Printing and reading -/

/-- The display of a rereadable expression is a source text of that expression. -/
theorem Expression.Rereadable.exists_parseExpression {named? : String → Option Char}
    {e : Expression} (h : e.Rereadable named?) :
    ∃ tokens, lexWith named? e.display = .ok tokens ∧ ∀ fixities,
      ∃ e', parseExpression tokens fixities = .ok e' ∧ e'.bare = e.bare := by
  obtain ⟨own, stop, hlex, hown, hstop⟩ := h.exists_lexWith
  have horder : Token.InOrder (own ++ [stop]) := (cut_of_lexWith hlex).1.inOrder
  exact ⟨_, hlex, Parser.exists_parseExpression_of_kinds h hown hstop horder⟩

/-- An expression that is read from a source text is rereadable if it is printable. -/
theorem Expression.Printable.rereadable {named? : String → Option Char} {source : String}
    {tokens : List Token} {fixities : FixityTable} {e : Expression} (h : e.Printable)
    (hlex : lexWith named? source = .ok tokens) (he : parseExpression tokens fixities = .ok e) :
    e.Rereadable named? := by
  have hend : ∃ t ∈ tokens, t.kind = .endOfInput := by
    obtain ⟨init, htokens, -⟩ := (cut_of_lexWith hlex).2
    exact ⟨_, htokens ▸ List.mem_append_right init List.mem_cons_self, rfl⟩
  obtain ⟨hlegible, hfollows⟩ := legible_of_lexWith hlex
  have hsubset : e.tokens ⊆ tokens := Parser.subset_of_parseExpression hend he
  exact (shaped_of_parseExpression hend he).rereadable hfollows h.members fun t ht =>
    ⟨hlegible t (hsubset ht), h.literals t ht⟩

/-- A printable expression that is read from a source text is read again, up to its spans, from its
display, and with any fixities. -/
theorem exists_parseExpression_display {named? : String → Option Char} {source : String}
    {tokens : List Token} {fixities : FixityTable} {e : Expression}
    (hlex : lexWith named? source = .ok tokens) (he : parseExpression tokens fixities = .ok e)
    (hprintable : e.Printable) :
    ∃ tokens', lexWith named? e.display = .ok tokens' ∧ ∀ fixities',
      ∃ e', parseExpression tokens' fixities' = .ok e' ∧ e'.bare = e.bare :=
  (hprintable.rereadable hlex he).exists_parseExpression

/-- A sum of a call and a text literal with a dollar sign in it. -/
theorem exists_parseExpression_display_sum :
    let tokens : List Token :=
      [⟨.identifier "x", ⟨0, 0, 0⟩, ⟨1, 0, 1⟩⟩, ⟨.symbol .dotAccess, ⟨1, 0, 1⟩, ⟨2, 0, 2⟩⟩,
        ⟨.identifier "y", ⟨2, 0, 2⟩, ⟨3, 0, 3⟩⟩, ⟨.character "a", ⟨4, 0, 4⟩, ⟨7, 0, 7⟩⟩,
        ⟨.operator "+", ⟨8, 0, 8⟩, ⟨9, 0, 9⟩⟩, ⟨.text "$", ⟨10, 0, 10⟩, ⟨13, 0, 13⟩⟩,
        ⟨.symbol .interpolationOpen, ⟨13, 0, 13⟩, ⟨15, 0, 15⟩⟩,
        ⟨.number "1", ⟨15, 0, 15⟩, ⟨16, 0, 16⟩⟩,
        ⟨.symbol .interpolationClose, ⟨16, 0, 16⟩, ⟨17, 0, 17⟩⟩,
        ⟨.text "", ⟨17, 0, 17⟩, ⟨18, 0, 18⟩⟩, ⟨.endOfInput, ⟨18, 0, 18⟩, ⟨18, 0, 18⟩⟩]
    ∃ e, lex "x.y 'a' + \"\\$$\x7b1\x7d\"" = .ok tokens ∧
      parseExpression tokens .standard = .ok e ∧ e.Printable ∧
      e.display = "((x.y) 'a' + \"\\$$\x7b1\x7d\")" ∧
      ∃ tokens', lex e.display = .ok tokens' ∧ ∀ fixities,
        ∃ e', parseExpression tokens' fixities = .ok e' ∧ e'.bare = e.bare := by
  intro tokens
  have hlex : lex "x.y 'a' + \"\\$$\x7b1\x7d\"" = .ok tokens := by decide +kernel
  have hok : (parseExpression tokens .standard).isOk := by decide +kernel
  obtain ⟨e, he⟩ := Except.exists_ok_of_isOk hok
  let kinds : List TokenKind :=
    [.identifier "x", .symbol .dotAccess, .identifier "y", .character "a", .operator "+",
      .text "$", .number "1", .text ""]
  have hresult : (parseExpression tokens .standard).toOption.map
      (fun e => (e.membersApart, e.tokens.map (·.kind), e.display)) =
        some (true, kinds, "((x.y) 'a' + \"\\$$\x7b1\x7d\")") := by decide +kernel
  obtain ⟨hmembers, hkinds, hdisplay⟩ : e.membersApart ∧ e.tokens.map (·.kind) = kinds ∧ _ := by
    simpa [he, Except.toOption] using hresult
  have hliterals : ∀ k ∈ kinds, k.Printable := by
    have hdollar : Text.IsPlain ['$'] := ⟨List.forall_mem_singleton.mpr (by decide), .singleton _⟩
    have hempty : Text.IsPlain [] := ⟨List.forall_mem_nil _, .nil⟩
    have hletter : CharacterBody.isPlain ['a'] := by decide
    simpa [kinds, TokenKind.Printable] using ⟨hletter, hdollar, hempty⟩
  have hprintable : e.Printable :=
    ⟨hmembers, fun t ht => hliterals _ (hkinds ▸ List.mem_map_of_mem ht)⟩
  exact ⟨e, hlex, he, hprintable, hdisplay, exists_parseExpression_display hlex he hprintable⟩

end Frontend
