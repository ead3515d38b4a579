import Frontend.Proofs.Grammar.Finishing

/-!
# What the readers of expressions accept

`Accepts p s Q` says that the reader `p` finds no fault at the stream `s`: within any number of
calls it gives a value with the property `Q`, or it is short of calls. Each reader has a rule here
for each of its ways to go on. By these rules, phrases are accepted without a word about calls; in
the end, `Finishing` says how many calls are enough.
-/

namespace Frontend

theorem Except.exists_ok_of_isOk {ε α : Type} {x : Except ε α} (h : x.isOk) : ∃ a, x = .ok a := by
  cases x with
  | ok a => exact ⟨a, rfl⟩
  | error e => cases h

namespace TokenStream

variable {t : Token} {rest : List Token} {last : Token}

@[simp] theorem current_cons : (⟨t :: rest, last⟩ : TokenStream).current = t := rfl

theorem advance_cons (h : t.kind ≠ .endOfInput) :
    (⟨t :: rest, last⟩ : TokenStream).advance = ⟨rest, last⟩ := by
  simp [advance, h]

end TokenStream

namespace Parser

open TokenStream (skipContinuation_of_ne advance_cons current_cons)

variable {α : Type} {p : Nat → Parser α} {Q Q' : α → TokenStream → Prop} {s t : TokenStream}

/-! ### Acceptance -/

/-- No fault is found: what is ahead is read, unless the calls run out or spans are out of order. -/
def Accepts (p : Nat → Parser α) (s : TokenStream) (Q : α → TokenStream → Prop) : Prop :=
  ∀ n, (p n).Ensures Q (fun e _ => ¬ e.IsFault) s

theorem Accepts.mono (h : Accepts p s Q) (hQ : ∀ a t, Q a t → Q' a t) : Accepts p s Q' :=
  fun n => (h n).mono hQ fun _ _ => id

/-- A reader that is short of calls at once has to be looked at with one call or more. -/
theorem Accepts.of_succ (hzero : p 0 = diverge)
    (hsucc : ∀ n, (p (n + 1)).Ensures Q (fun e _ => ¬ e.IsFault) s) : Accepts p s Q := by
  intro n
  cases n with
  | zero =>
    rw [hzero]
    exact id
  | succ n => exact hsucc n

/-- A reader that accepts what is ahead and that finishes gives a value. -/
theorem Accepts.exists_ok {n : Nat} (h : Accepts p s Q) (hf : (p n).Finishes s) :
    ∃ a t, p n s = .ok a t ∧ Q a t := by
  have hboth : (p n).Ensures _ _ s := hf.and (h n)
  cases hp : p n s with
  | ok a t => exact ⟨a, t, rfl, (hboth.of_ok hp).2⟩
  | error e t =>
    obtain ⟨hfault, hnot⟩ := hboth.of_error hp
    exact absurd hfault hnot

/-- There is an expression, and it has a property. -/
def Gives (R : Expression → TokenStream → Prop) (e? : Option Expression) (t : TokenStream) : Prop :=
  ∃ e, e? = some e ∧ R e t

theorem Gives.mono {R R' : Expression → TokenStream → Prop} {e? : Option Expression}
    (h : Gives R e? t) (hR : ∀ e, R e t → R' e t) : Gives R' e? t := by
  obtain ⟨e, rfl, he⟩ := h
  exact ⟨e, rfl, hR e he⟩

theorem Accepts.imp {p : Nat → Parser (Option Expression)}
    {R R' : Expression → TokenStream → Prop} (h : Accepts p s (Gives R))
    (hR : ∀ e t, R e t → R' e t) : Accepts p s (Gives R') :=
  h.mono fun _ t he => he.mono fun e => hR e t

theorem not_isFault_disorder (d : Span.Disorder) : ¬ (ParseFailure.disorder d).IsFault := id

/-- Merging spans is no reason for a fault. -/
theorem accepts_merge {Q : Span → TokenStream → Prop} {u v : Span} (h : Q ⟨u.start, v.stop⟩ s) :
    (merge u v).Ensures Q (fun e _ => ¬ e.IsFault) s :=
  (ensures_merge u v).mpr ⟨fun _ => h, fun _ => not_isFault_disorder _⟩

variable {fixities : FixityTable} {R : Expression → TokenStream → Prop} {c o x : Token}
  {rest : List Token} {last : Token} {e : Expression} {opening : Span}

/-! ### Primary expressions -/

theorem accepts_primary_leaf
    (hx : x.kind.isIdentifier ∨ (∃ digits, x.kind = .number digits) ∨
      ∃ content, x.kind = .character content)
    (h : R (.factor x x.span) ⟨rest, last⟩) :
    Accepts (primaryWithin fixities) ⟨x :: rest, last⟩ (Gives R) := by
  refine .of_succ rfl fun n => ?_
  rw [primaryWithin]
  simp only [ensures_bind, ensures_current, current_cons]
  rcases hx with hx | ⟨digits, hx⟩ | ⟨content, hx⟩
  · obtain ⟨name, hx⟩ := TokenKind.isIdentifier_iff.mp hx
    simp only [hx, ensures_bind, ensures_advance, advance_cons (t := x) (by simp [hx])]
    exact ⟨_, rfl, h⟩
  · simp only [hx, ensures_bind, ensures_advance, advance_cons (t := x) (by simp [hx])]
    exact ⟨_, rfl, h⟩
  · simp only [hx, ensures_bind, ensures_advance, advance_cons (t := x) (by simp [hx])]
    exact ⟨_, rfl, h⟩

theorem accepts_primary_text (hx : x.kind.isText)
    (h : Accepts (textWithin fixities · (.factor x x.span)) ⟨rest, last⟩ R) :
    Accepts (primaryWithin fixities) ⟨x :: rest, last⟩ (Gives R) := by
  obtain ⟨content, hx⟩ := TokenKind.isText_iff.mp hx
  refine .of_succ rfl fun n => ?_
  rw [primaryWithin]
  simp only [ensures_bind, ensures_current, current_cons, hx, ensures_advance,
    advance_cons (t := x) (by simp [hx])]
  exact (h n).mono (fun e _ he => ⟨e, rfl, he⟩) fun _ _ => id

theorem accepts_primary_round (ho : o.kind = .symbol .openRound)
    (h : Accepts (roundWithin fixities · o.span) ⟨rest, last⟩ R) :
    Accepts (primaryWithin fixities) ⟨o :: rest, last⟩ (Gives R) := by
  refine .of_succ rfl fun n => ?_
  rw [primaryWithin]
  simp only [ensures_bind, ensures_current, current_cons, ho, ensures_advance,
    advance_cons (t := o) (by simp [ho])]
  exact (h n).mono (fun e _ he => ⟨e, rfl, he⟩) fun _ _ => id

theorem accepts_primary_curly (ho : o.kind = .symbol .openCurly)
    (h : Accepts (curlyWithin fixities · o.span) ⟨rest, last⟩ R) :
    Accepts (primaryWithin fixities) ⟨o :: rest, last⟩ (Gives R) := by
  refine .of_succ rfl fun n => ?_
  rw [primaryWithin]
  simp only [ensures_bind, ensures_current, current_cons, ho, ensures_advance,
    advance_cons (t := o) (by simp [ho])]
  exact (h n).mono (fun e _ he => ⟨e, rfl, he⟩) fun _ _ => id

theorem accepts_round_empty (hc : c.kind = .symbol .closeRound)
    (h : ∀ span, R (.tuple [] span) ⟨rest, last⟩) :
    Accepts (roundWithin fixities · opening) ⟨c :: rest, last⟩ R := by
  refine .of_succ rfl fun n => ?_
  rw [roundWithin]
  simp only [ensures_bind, ensures_current, ensures_consume, current_cons,
    advance_cons (t := c) (by simp [hc])]
  refine ⟨fun _ => ?_, fun hne => absurd hc hne⟩
  rw [if_pos trivial, ensures_bind]
  exact accepts_merge (h _)

theorem accepts_round (hs : s.current.kind ≠ .symbol .closeRound)
    (h : Accepts (expressionWithin fixities) s (Gives fun e t =>
      ∃ c rest last, t = ⟨c :: rest, last⟩ ∧ c.kind = .symbol .closeRound ∧
        R (e.withSpan ⟨opening.start, c.span.stop⟩) ⟨rest, last⟩)) :
    Accepts (roundWithin fixities · opening) s R := by
  refine .of_succ rfl fun n => ?_
  rw [roundWithin]
  simp only [ensures_bind, ensures_current, ensures_consume]
  refine ⟨fun hc => absurd hc hs, fun _ => ?_⟩
  simp only [if_neg Bool.false_ne_true, ensures_bind]
  refine (h n).mono ?_ fun _ _ => id
  rintro _ _ ⟨e, rfl, c, rest, last, rfl, hc, hR⟩
  simp only [ensures_expect, ensures_take, current_cons, advance_cons (t := c) (by simp [hc]), hc]
  refine ⟨?_, by simp⟩
  rintro _ ⟨⟩
  refine ⟨fun _ => accepts_merge hR, by simp [TokenKind.isSymbol]⟩

theorem accepts_closeCurly {es : List Expression} (fault : SyntaxFault)
    (hc : c.kind = .symbol .closeCurly)
    (h : R (.list es ⟨opening.start, c.span.stop⟩) ⟨rest, last⟩) :
    (take (·.isSymbol .closeCurly) fault).Ensures
      (fun closing => (merge opening closing.span).Ensures
        (fun span => R (.list es span)) (fun e _ => ¬ e.IsFault)) (fun e _ => ¬ e.IsFault)
      ⟨c :: rest, last⟩ := by
  simp only [ensures_take, current_cons, advance_cons (t := c) (by simp [hc]), hc]
  exact ⟨fun _ => accepts_merge h, by simp [TokenKind.isSymbol]⟩

theorem accepts_curly
    (h : Accepts (binaryWithin fixities · 0) s (Gives fun e t =>
      Accepts (elementsWithin fixities) t fun es u => ∃ c rest last, u = ⟨c :: rest, last⟩ ∧
        c.kind = .symbol .closeCurly ∧
          R (.list (e :: es) ⟨opening.start, c.span.stop⟩) ⟨rest, last⟩)) :
    Accepts (curlyWithin fixities · opening) s R := by
  refine .of_succ rfl fun n => ?_
  rw [curlyWithin, ensures_bind]
  refine (h n).mono ?_ fun _ _ => id
  rintro _ t ⟨e, rfl, he⟩
  simp only [ensures_bind, ensures_pure]
  refine (he n).mono ?_ fun _ _ => id
  rintro es _ ⟨c, rest, last, rfl, hc, hR⟩
  exact accepts_closeCurly _ hc hR

/-! ### Text literals -/

theorem accepts_text_end (hs : s.current.kind ≠ .symbol .interpolationOpen) (h : R e s) :
    Accepts (textWithin fixities · e) s R := by
  refine .of_succ rfl fun n => ?_
  rw [textWithin]
  simp only [ensures_bind, ensures_current, ensures_ite, TokenKind.isSymbol_iff]
  exact ⟨fun hopen => absurd hopen hs, fun _ => h⟩

theorem accepts_text (hs : s.current.kind = .symbol .interpolationOpen)
    (h : Accepts (segmentsWithin fixities) s fun es t =>
      ∀ span, R (.interpolation (e :: es) span) t) :
    Accepts (textWithin fixities · e) s R := by
  refine .of_succ rfl fun n => ?_
  rw [textWithin]
  simp only [ensures_bind, ensures_current, ensures_ite, TokenKind.isSymbol_iff]
  refine ⟨fun _ => ?_, fun hne => absurd hs hne⟩
  refine (h n).mono (fun es t hR => ?_) fun _ _ => id
  rw [cover]
  exact accepts_merge (hR _)

variable {S : List Expression → TokenStream → Prop}

theorem accepts_segments_end (hs : s.current.kind ≠ .symbol .interpolationOpen) (h : S [] s) :
    Accepts (segmentsWithin fixities) s S := by
  refine .of_succ rfl fun n => ?_
  rw [segmentsWithin]
  simp only [ensures_bind, ensures_consume]
  exact ⟨fun hopen => absurd hopen hs, fun _ => h⟩

theorem accepts_segments (ho : o.kind = .symbol .interpolationOpen)
    (h : Accepts (expressionWithin fixities) ⟨rest, last⟩ (Gives fun e t =>
      ∃ c x more, t = ⟨c :: x :: more, last⟩ ∧ c.kind = .symbol .interpolationClose ∧
        x.kind.isText ∧ Accepts (segmentsWithin fixities) ⟨more, last⟩ fun es u =>
          S (e :: .factor x x.span :: es) u)) :
    Accepts (segmentsWithin fixities) ⟨o :: rest, last⟩ S := by
  refine .of_succ rfl fun n => ?_
  rw [segmentsWithin]
  simp only [ensures_bind, ensures_consume, current_cons, advance_cons (t := o) (by simp [ho])]
  refine ⟨fun _ => ?_, fun hne => absurd ho hne⟩
  rw [if_pos trivial, ensures_bind]
  refine (h n).mono ?_ fun _ _ => id
  rintro _ _ ⟨e, rfl, c, x, more, rfl, hc, hx, hmore⟩
  have hxk : x.kind ≠ .endOfInput := by
    obtain ⟨content, hx⟩ := TokenKind.isText_iff.mp hx
    simp [hx]
  simp only [ensures_bind, ensures_expect, ensures_take, current_cons, hx, advance_cons hxk,
    advance_cons (t := c) (by simp [hc]), hc]
  refine ⟨?_, by simp⟩
  rintro _ ⟨⟩
  refine ⟨fun _ => ⟨fun _ => hmore n, by simp⟩, by simp [TokenKind.isSymbol]⟩

/-! ### Factors and applications -/

theorem accepts_factor (hs : s.current.kind ≠ .lineBreak)
    (h : Accepts (primaryWithin fixities) s (Gives fun e t =>
      Accepts (membersWithin fixities · e) t R)) :
    Accepts (factorWithin fixities) s (Gives R) := by
  refine .of_succ rfl fun n => ?_
  rw [factorWithin]
  simp only [ensures_bind, ensures_skipContinuation, skipContinuation_of_ne _ hs]
  refine (h n).mono ?_ fun _ _ => id
  rintro _ t ⟨e, rfl, he⟩
  simp only [ensures_bind]
  exact (he n).mono (fun e _ he => ⟨e, rfl, he⟩) fun _ _ => id

theorem accepts_members_end (hs : s.current.kind ≠ .symbol .dotAccess) (h : R e s) :
    Accepts (membersWithin fixities · e) s R := by
  refine .of_succ rfl fun n => ?_
  rw [membersWithin]
  simp only [ensures_bind, ensures_current, ensures_consume]
  exact ⟨fun hdot => absurd hdot hs, fun _ => h⟩

theorem accepts_members (ho : o.kind = .symbol .dotAccess) (hx : x.kind.isIdentifier)
    (h : ∀ span, Accepts (membersWithin fixities · (.operation o e (.factor x x.span) span))
      ⟨rest, last⟩ R) :
    Accepts (membersWithin fixities · e) ⟨o :: x :: rest, last⟩ R := by
  have hxk : x.kind ≠ .endOfInput := by
    obtain ⟨name, hx⟩ := TokenKind.isIdentifier_iff.mp hx
    simp [hx]
  refine .of_succ rfl fun n => ?_
  rw [membersWithin]
  simp only [ensures_bind, ensures_current, ensures_consume, current_cons,
    advance_cons (t := o) (by simp [ho])]
  refine ⟨fun _ => ?_, fun hne => absurd ho hne⟩
  simp only [if_pos trivial, ensures_bind, ensures_take, current_cons, advance_cons hxk, hx]
  exact ⟨fun _ => accepts_merge (h _ n), by simp⟩

/-- No primary expression starts here. -/
theorem primaryWithin_none (hk : s.current.kind.startsFactor = false) (n : Nat) :
    primaryWithin fixities (n + 1) s = .ok none s := by
  have h : (primaryWithin fixities (n + 1)).Ensures (fun e? t => e? = none ∧ t = s)
      (fun _ _ => False) s := by
    rw [primaryWithin]
    simp only [ensures_bind, ensures_current]
    split
    all_goals first
      | exact ⟨rfl, rfl⟩
      | next hk' => simp [hk', TokenKind.startsFactor] at hk
  cases hp : primaryWithin fixities (n + 1) s with
  | ok e? t =>
    obtain ⟨rfl, rfl⟩ := h.of_ok hp
    rfl
  | error e t => exact (h.of_error hp).elim

/-- No factor starts here. -/
theorem factorWithin_none (hs : s.current.kind ≠ .lineBreak)
    (hk : s.current.kind.startsFactor = false) (n : Nat) :
    (factorWithin fixities n).Ensures (fun e? t => e? = none ∧ t = s) (fun e _ => ¬ e.IsFault)
      s := by
  cases n with
  | zero => exact id
  | succ n =>
    rw [factorWithin]
    simp only [ensures_bind, ensures_skipContinuation, skipContinuation_of_ne _ hs]
    cases n with
    | zero => exact id
    | succ n =>
      rw [Ensures, primaryWithin_none hk n]
      exact ⟨rfl, rfl⟩

theorem accepts_application
    (h : Accepts (factorWithin fixities) s (Gives fun e t =>
      Accepts (argumentsWithin fixities · e) t R)) :
    Accepts (applicationWithin fixities) s (Gives R) := by
  refine .of_succ rfl fun n => ?_
  rw [applicationWithin, ensures_bind]
  refine (h n).mono ?_ fun _ _ => id
  rintro _ t ⟨e, rfl, he⟩
  simp only [ensures_bind]
  exact (he n).mono (fun e _ he => ⟨e, rfl, he⟩) fun _ _ => id

/-- No application starts here. -/
theorem applicationWithin_none (hs : s.current.kind ≠ .lineBreak)
    (hk : s.current.kind.startsFactor = false) (n : Nat) :
    (applicationWithin fixities n).Ensures (fun e? t => e? = none ∧ t = s) (fun e _ => ¬ e.IsFault)
      s := by
  cases n with
  | zero => exact id
  | succ n =>
    rw [applicationWithin, ensures_bind]
    refine (factorWithin_none hs hk n).mono ?_ fun _ _ => id
    rintro _ _ ⟨rfl, rfl⟩
    exact ⟨rfl, rfl⟩

/-- No binary expression starts here. -/
theorem binaryWithin_none (hs : s.current.kind ≠ .lineBreak)
    (hk : s.current.kind.startsFactor = false) (n band : Nat) :
    (binaryWithin fixities n band).Ensures (fun e? t => e? = none ∧ t = s) (fun e _ => ¬ e.IsFault)
      s := by
  induction n generalizing band with
  | zero => exact id
  | succ n ih =>
    rw [binaryWithin, ensures_ite]
    refine ⟨fun _ => applicationWithin_none hs hk n, fun _ => ?_⟩
    rw [ensures_bind]
    refine (ih (band + 1)).mono ?_ fun _ _ => id
    rintro _ _ ⟨rfl, rfl⟩
    exact ⟨rfl, rfl⟩

theorem accepts_arguments_end
    (hs : e.isCallable → s.current.kind ≠ .lineBreak ∧ s.current.kind.startsFactor = false)
    (h : R e s) : Accepts (argumentsWithin fixities · e) s R := by
  refine .of_succ rfl fun n => ?_
  rw [argumentsWithin, ensures_ite]
  refine ⟨fun hcallable => ?_, fun _ => h⟩
  obtain ⟨hbreak, hstart⟩ := hs hcallable
  rw [ensures_bind]
  refine (factorWithin_none hbreak hstart n).mono ?_ fun _ _ => id
  rintro _ _ ⟨rfl, rfl⟩
  exact h

theorem accepts_arguments (he : e.isCallable)
    (h : Accepts (factorWithin fixities) s (Gives fun a t =>
      ∀ span, Accepts (argumentsWithin fixities · (.application e a span)) t R)) :
    Accepts (argumentsWithin fixities · e) s R := by
  refine .of_succ rfl fun n => ?_
  rw [argumentsWithin, if_pos he, ensures_bind]
  refine (h n).mono ?_ fun _ _ => id
  rintro _ t ⟨a, rfl, ha⟩
  simp only [ensures_bind]
  exact accepts_merge (ha _ n)

theorem accepts_curly_empty (hc : c.kind = .symbol .closeCurly)
    (h : ∀ span, R (.list [] span) ⟨rest, last⟩) :
    Accepts (curlyWithin fixities · opening) ⟨c :: rest, last⟩ R := by
  refine .of_succ rfl fun n => ?_
  rw [curlyWithin, ensures_bind]
  refine (binaryWithin_none (by simp [hc]) (by simp [hc, TokenKind.startsFactor]) n 0).mono ?_
    fun _ _ => id
  rintro _ _ ⟨rfl, rfl⟩
  simp only [ensures_bind, ensures_pure]
  exact accepts_closeCurly _ hc (h _)

/-! ### Expressions -/

theorem accepts_expression
    (h : Accepts (binaryWithin fixities · 0) s (Gives fun e t =>
      t.current.kind ≠ .lineBreak ∧ t.current.kind ≠ .symbol .comma ∧ R e t)) :
    Accepts (expressionWithin fixities) s (Gives R) := by
  refine .of_succ rfl fun n => ?_
  rw [expressionWithin, ensures_bind]
  refine (h n).mono ?_ fun _ _ => id
  rintro _ t ⟨e, rfl, hbreak, hcomma, hR⟩
  simp only [ensures_bind, ensures_skipContinuation, skipContinuation_of_ne _ hbreak,
    ensures_current, ensures_ite, TokenKind.isSymbol_iff]
  exact ⟨fun hc => absurd hc hcomma, fun _ => ⟨e, rfl, hR⟩⟩

theorem accepts_expression_tuple
    (h : Accepts (binaryWithin fixities · 0) s (Gives fun e t =>
      t.current.kind = .symbol .comma ∧
        Accepts (elementsWithin fixities) t fun es u =>
          R (.tuple (e :: es) (Expression.extent e es)) u)) :
    Accepts (expressionWithin fixities) s (Gives R) := by
  refine .of_succ rfl fun n => ?_
  rw [expressionWithin, ensures_bind]
  refine (h n).mono ?_ fun _ _ => id
  rintro _ t ⟨e, rfl, hcomma, he⟩
  have hbreak : t.current.kind ≠ .lineBreak := by simp [hcomma]
  simp only [ensures_bind, ensures_skipContinuation, skipContinuation_of_ne _ hbreak,
    ensures_current, ensures_ite, TokenKind.isSymbol_iff]
  refine ⟨fun _ => ?_, fun hne => absurd hcomma hne⟩
  refine (he n).mono (fun es u hR => ?_) fun _ _ => id
  rw [cover]
  exact accepts_merge ⟨_, rfl, hR⟩

theorem accepts_elements_end (hs : s.current.kind ≠ .symbol .comma) (h : S [] s) :
    Accepts (elementsWithin fixities) s S := by
  refine .of_succ rfl fun n => ?_
  rw [elementsWithin]
  simp only [ensures_bind, ensures_consume]
  exact ⟨fun hc => absurd hc hs, fun _ => h⟩

theorem accepts_elements (hc : c.kind = .symbol .comma)
    (h : Accepts (binaryWithin fixities · 0) ⟨rest, last⟩ (Gives fun e t =>
      t.current.kind ≠ .lineBreak ∧
        Accepts (elementsWithin fixities) t fun es u => S (e :: es) u)) :
    Accepts (elementsWithin fixities) ⟨c :: rest, last⟩ S := by
  refine .of_succ rfl fun n => ?_
  rw [elementsWithin]
  simp only [ensures_bind, ensures_consume, current_cons, advance_cons (t := c) (by simp [hc])]
  refine ⟨fun _ => ?_, fun hne => absurd hc hne⟩
  rw [if_pos trivial, ensures_bind]
  refine (h n).mono ?_ fun _ _ => id
  rintro _ t ⟨e, rfl, hbreak, he⟩
  simp only [ensures_bind, ensures_expect, ensures_skipContinuation,
    skipContinuation_of_ne _ hbreak]
  refine ⟨?_, by simp⟩
  rintro _ ⟨⟩
  exact he n

/-! ### Whole streams -/

/-- What is accepted from its first token to the end of input is what the tokens spell. -/
theorem exists_parseExpression {own : List Token} {stop : Token} {P : Expression → Prop}
    (hstop : stop.kind = .endOfInput) (horder : Token.InOrder (own ++ [stop]))
    (h : Accepts (expressionWithin fixities) ⟨own ++ [stop], stop⟩
      (Gives fun e t => P e ∧ t = ⟨[stop], stop⟩)) :
    ∃ e, parseExpression (own ++ [stop]) fixities = .ok e ∧ P e := by
  have haccepts : Accepts (fun _ => wholeExpression fixities) ⟨own ++ [stop], stop⟩
      fun e _ => P e := by
    intro n
    rw [wholeExpression, expression]
    simp only [ensures_bind, ensures_repeated]
    refine (h _).mono ?_ fun _ _ => id
    rintro _ _ ⟨e, rfl, he, rfl⟩
    simp only [ensures_expect]
    refine ⟨?_, by simp⟩
    rintro _ ⟨⟩
    simp only [TokenStream.fuel, List.length_singleton, lineBreaksWithin, ensures_bind,
      ensures_current, current_cons, hstop, ensures_ite, ensures_require]
    exact ⟨fun hbreak => absurd hbreak (by simp), fun _ => ⟨fun _ => he, by simp [hstop]⟩⟩
  have hfinishes : (wholeExpression fixities).Finishes ⟨own ++ [stop], stop⟩ :=
    wholeExpression_finishes fixities
      ⟨⟨stop, List.mem_append_right own List.mem_cons_self, hstop⟩, horder⟩
  obtain ⟨e, t, hok, he⟩ := haccepts.exists_ok (n := 0) hfinishes
  refine ⟨e, ?_, he⟩
  rw [parseExpression, run', TokenStream.ofList_concat, hok]

end Parser

end Frontend
