import Frontend.Grammar.Parser

/-!
# Outcomes of parsers

`p.Ensures Q E s` says what becomes of the parser `p` at the stream `s`: if it gives a value, `Q`
holds of the value and the tokens left, and if it fails, `E` holds of the failure and the tokens
left. Each step of a parser has one rule here, which tells what has to hold before it for
`Ensures` to hold of it. A parser is then read from its first step to its last by rewriting.
-/

namespace Frontend.Parser

variable {α β : Type}

/-- What holds of the value that a parser gives, or else of its failure. -/
def Ensures (p : Parser α) (Q : α → TokenStream → Prop) (E : ParseFailure → TokenStream → Prop)
    (s : TokenStream) : Prop :=
  match p s with
  | .ok a t    => Q a t
  | .error e t => E e t

/-- Nothing is known of failures. -/
def Fails (_ : ParseFailure) (_ : TokenStream) : Prop := True

variable {p : Parser α} {Q Q' : α → TokenStream → Prop} {E E' : ParseFailure → TokenStream → Prop}
  {s t : TokenStream}

/-! ### Consequences -/

theorem Ensures.mono (h : p.Ensures Q E s) (hQ : ∀ a t, Q a t → Q' a t)
    (hE : ∀ e t, E e t → E' e t) : p.Ensures Q' E' s := by
  unfold Ensures at *
  split
  · next hp => exact hQ _ _ (by simpa only [hp] using h)
  · next hp => exact hE _ _ (by simpa only [hp] using h)

/-- What is known of every parser. -/
theorem Ensures.anything (p : Parser α) (s : TokenStream) :
    p.Ensures (fun _ _ => True) Fails s := by
  rw [Ensures]
  split <;> trivial

theorem Ensures.and (h : p.Ensures Q E s) (h' : p.Ensures Q' E' s) :
    p.Ensures (fun a t => Q a t ∧ Q' a t) (fun e t => E e t ∧ E' e t) s := by
  unfold Ensures at *
  split
  · next hp => exact ⟨by simpa only [hp] using h, by simpa only [hp] using h'⟩
  · next hp => exact ⟨by simpa only [hp] using h, by simpa only [hp] using h'⟩

theorem Ensures.of_ok {a : α} (h : p.Ensures Q E s) (hp : p s = .ok a t) : Q a t := by
  simpa only [Ensures, hp] using h

theorem Ensures.of_error {e : ParseFailure} (h : p.Ensures Q E s) (hp : p s = .error e t) :
    E e t := by
  simpa only [Ensures, hp] using h

/-- What is ensured of a value that is read from tokens. -/
theorem Ensures.exists_of_run' {a : α} {tokens : List Token} (h : p.Ensures Q E (.ofList tokens))
    (hrun : p.run' tokens = .ok a) : ∃ t, Q a t := by
  rw [run'] at hrun
  split at hrun
  · next t hp =>
    cases hrun
    exact ⟨t, h.of_ok hp⟩
  · cases hrun

/-- What is ensured of a failure to read tokens. -/
theorem Ensures.exists_of_run'_error {x : ParseFailure} {tokens : List Token}
    (h : p.Ensures Q E (.ofList tokens)) (hrun : p.run' tokens = .error x) : ∃ t, E x t := by
  rw [run'] at hrun
  split at hrun
  · cases hrun
  · next t hp =>
    cases hrun
    exact ⟨t, h.of_error hp⟩

/-- A parser that does here what another one does there. -/
theorem ensures_congr {q : Parser α} (h : p s = q t) : p.Ensures Q E s ↔ q.Ensures Q E t := by
  unfold Ensures
  rw [h]

/-! ### Steps -/

@[simp] theorem ensures_pure (a : α) : (pure a : Parser α).Ensures Q E s ↔ Q a s := Iff.rfl

@[simp] theorem ensures_bind (f : α → Parser β) {Q : β → TokenStream → Prop} :
    (p >>= f).Ensures Q E s ↔ p.Ensures (fun a t => (f a).Ensures Q E t) E s := by
  unfold Ensures
  simp only [bind, EStateM.bind]
  cases p s <;> rfl

@[simp] theorem ensures_fail (fault : SyntaxFault) :
    (fail fault : Parser α).Ensures Q E s ↔ E (.error ⟨fault, s.current⟩) s := Iff.rfl

@[simp] theorem ensures_repeated (p : Nat → Parser α) :
    (repeated p).Ensures Q E s ↔ (p s.fuel).Ensures Q E s := Iff.rfl

@[simp] theorem ensures_current {Q : Token → TokenStream → Prop} :
    current.Ensures Q E s ↔ Q s.current s := Iff.rfl

@[simp] theorem ensures_peek {Q : Token → TokenStream → Prop} (n : Nat) :
    (peek n).Ensures Q E s ↔ Q (s.peek n) s := Iff.rfl

@[simp] theorem ensures_advance {Q : Unit → TokenStream → Prop} :
    advance.Ensures Q E s ↔ Q () s.advance := Iff.rfl

@[simp] theorem ensures_skipContinuation {Q : Unit → TokenStream → Prop} (q : TokenKind → Bool) :
    (skipContinuation q).Ensures Q E s ↔ Q () (s.skipContinuation q) := Iff.rfl

theorem ensures_consume {Q : Bool → TokenStream → Prop} (symbol : Symbol) :
    (consume symbol).Ensures Q E s ↔
      (s.current.kind = .symbol symbol → Q true s.advance) ∧
        (s.current.kind ≠ .symbol symbol → Q false s) := by
  rw [Ensures, consume, TokenKind.isSymbol]
  by_cases h : s.current.kind = .symbol symbol <;> simp [h]

theorem ensures_take {Q : Token → TokenStream → Prop} (q : TokenKind → Bool)
    (fault : SyntaxFault) :
    (take q fault).Ensures Q E s ↔
      (q s.current.kind → Q s.current s.advance) ∧
        (q s.current.kind = false → E (.error ⟨fault, s.current⟩) s) := by
  rw [Ensures, take]
  by_cases h : q s.current.kind <;> simp [h]

theorem ensures_require {Q : Unit → TokenStream → Prop} (condition : Bool)
    (fault : SyntaxFault) :
    (require condition fault).Ensures Q E s ↔
      (condition → Q () s) ∧ (condition = false → E (.error ⟨fault, s.current⟩) s) := by
  rw [Ensures, require]
  cases condition <;> simp

theorem ensures_expect (fault : SyntaxFault) (a : Option α) :
    (expect fault a).Ensures Q E s ↔
      (∀ b, a = some b → Q b s) ∧ (a = none → E (.error ⟨fault, s.current⟩) s) := by
  cases a <;> simp [expect]

theorem ensures_merge {Q : Span → TokenStream → Prop} (u v : Span) :
    (merge u v).Ensures Q E s ↔
      (u.start ≤ v.stop → Q ⟨u.start, v.stop⟩ s) ∧
        (¬ u.start ≤ v.stop → E (.disorder ⟨u.start, v.stop⟩) s) := by
  rw [Ensures, merge, Span.merge, Span.between]
  by_cases h : u.start ≤ v.stop <;> simp [h]

theorem ensures_ite (c : Prop) [Decidable c] (q : Parser α) :
    (if c then p else q).Ensures Q E s ↔
      (c → p.Ensures Q E s) ∧ (¬ c → q.Ensures Q E s) := by
  by_cases h : c <;> simp [h]

end Frontend.Parser
