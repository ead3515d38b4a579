import Frontend.Proofs.Grammar.Outcome
import Frontend.Proofs.Token.Kind

/-!
# Two runs of a parser

`p.Agrees q R s t` compares the parser `p` at the stream `s` with the parser `q` at the stream `t`:
either both give values, and `R` holds of the values and the tokens left, or both fail. Nothing is
said when `p` is short of calls. Each step of a parser has one rule here, so that two runs are
followed side by side.
-/

namespace Frontend.Parser

variable {α β : Type}

/-- Unless the first parser is short of calls, both parsers give values that are related, or both
fail. -/
def Agrees (p q : Parser α) (R : α → α → TokenStream → TokenStream → Prop) (s t : TokenStream) :
    Prop :=
  match p s, q t with
  | .error .endless _, _     => True
  | .error _ _, .error _ _   => True
  | .ok a s', .ok b t'       => R a b s' t'
  | _, _                     => False

variable {p q : Parser α} {R : α → α → TokenStream → TokenStream → Prop} {s t : TokenStream}

/-! ### Consequences -/

theorem Agrees.of_ok {a : α} {s' : TokenStream} (h : p.Agrees q R s t) (hp : p s = .ok a s') :
    ∃ b t', q t = .ok b t' ∧ R a b s' t' := by
  rw [Agrees, hp] at h
  cases hq : q t with
  | ok b t' => exact ⟨b, t', rfl, by simpa only [hq] using h⟩
  | error e t' => simp only [hq] at h

theorem Agrees.of_error {e : ParseFailure} {s' : TokenStream} (h : p.Agrees q R s t)
    (hp : p s = .error e s') (he : e ≠ .endless) : ∃ e' t', q t = .error e' t' := by
  rw [Agrees, hp] at h
  cases hq : q t with
  | ok b t' => cases e <;> simp_all
  | error e' t' => exact ⟨e', t', rfl⟩

theorem Agrees.mono {R' : α → α → TokenStream → TokenStream → Prop} (h : p.Agrees q R s t)
    (hR : ∀ a b s' t', R a b s' t' → R' a b s' t') : p.Agrees q R' s t := by
  unfold Agrees at *
  cases hp : p s with
  | error e s' => cases hq : q t <;> cases e <;> simp_all
  | ok a s' =>
    cases hq : q t with
    | error e t' => simp only [hp, hq] at h
    | ok b t' => exact hR a b s' t' (by simpa only [hp, hq] using h)

theorem Agrees.bind {f g : α → Parser β} {Q : β → β → TokenStream → TokenStream → Prop}
    (h : p.Agrees q R s t) (hf : ∀ a b s' t', R a b s' t' → (f a).Agrees (g b) Q s' t') :
    (p >>= f).Agrees (q >>= g) Q s t := by
  unfold Agrees at h
  simp only [Agrees, Bind.bind, EStateM.bind]
  cases hp : p s with
  | error e s' =>
    cases hq : q t with
    | error e' t' => cases e <;> trivial
    | ok b t' => cases e <;> simp_all
  | ok a s' =>
    cases hq : q t with
    | error e' t' => simp only [hp, hq] at h
    | ok b t' => exact hf a b s' t' (by simpa only [hp, hq] using h)

/-! ### Steps -/

variable {f g : α → Parser β} {Q : β → β → TokenStream → TokenStream → Prop}

theorem agrees_pure {a b : α} (h : R a b s t) : (pure a : Parser α).Agrees (pure b) R s t := h

theorem agrees_fail (fault fault' : SyntaxFault) :
    (fail fault : Parser α).Agrees (fail fault') R s t := trivial

theorem agrees_repeated {p q : Nat → Parser α} (h : (p s.fuel).Agrees (q t.fuel) R s t) :
    (repeated p).Agrees (repeated q) R s t := h

/-- A choice by tests that have the same result in both runs. -/
theorem agrees_ite {c d : Prop} [Decidable c] [Decidable d] {p' q' : Parser α} (hcd : d ↔ c)
    (hthen : c → p.Agrees q R s t) (helse : ¬ c → p'.Agrees q' R s t) :
    (if c then p else p').Agrees (if d then q else q') R s t := by
  by_cases hc : c
  · rw [if_pos hc, if_pos (hcd.mpr hc)]
    exact hthen hc
  · rw [if_neg hc, if_neg (mt hcd.mp hc)]
    exact helse hc

theorem agrees_current {f g : Token → Parser β} (h : (f s.current).Agrees (g t.current) Q s t) :
    (current >>= f).Agrees (current >>= g) Q s t := h

theorem agrees_advance {f g : Unit → Parser β}
    (h : (f ()).Agrees (g ()) Q s.advance t.advance) :
    (advance >>= f).Agrees (advance >>= g) Q s t := h

theorem agrees_skipContinuation {f g : Unit → Parser β} {c : TokenKind → Bool}
    (h : (f ()).Agrees (g ()) Q (s.skipContinuation c) (t.skipContinuation c)) :
    (skipContinuation c >>= f).Agrees (skipContinuation c >>= g) Q s t := h

theorem agrees_consume {f g : Bool → Parser β} {symbol : Symbol}
    (hsymbol : t.current.kind.isSymbol symbol = s.current.kind.isSymbol symbol)
    (htrue : s.current.kind = .symbol symbol → (f true).Agrees (g true) Q s.advance t.advance)
    (hfalse : s.current.kind ≠ .symbol symbol → (f false).Agrees (g false) Q s t) :
    (consume symbol >>= f).Agrees (consume symbol >>= g) Q s t := by
  by_cases h : s.current.kind = .symbol symbol
  · have hs : s.current.kind.isSymbol symbol := TokenKind.isSymbol_iff.mpr h
    simpa only [Agrees, Bind.bind, EStateM.bind, consume, hsymbol, hs, if_true] using htrue h
  · have hs : s.current.kind.isSymbol symbol = false := by simpa [TokenKind.isSymbol] using h
    simpa only [Agrees, Bind.bind, EStateM.bind, consume, hsymbol, hs,
      if_neg Bool.false_ne_true] using hfalse h

theorem agrees_take {f g : Token → Parser β} {c : TokenKind → Bool} {fault : SyntaxFault}
    (hc : c t.current.kind = c s.current.kind)
    (h : c s.current.kind → (f s.current).Agrees (g t.current) Q s.advance t.advance) :
    (take c fault >>= f).Agrees (take c fault >>= g) Q s t := by
  cases hs : c s.current.kind with
  | true => simpa only [Agrees, Bind.bind, EStateM.bind, take, hc, hs, if_true] using h hs
  | false => simp [Agrees, Bind.bind, EStateM.bind, take, hc, hs]

theorem agrees_require {f g : Unit → Parser β} {c d : Bool} {fault : SyntaxFault} (hcd : d = c)
    (h : c → (f ()).Agrees (g ()) Q s t) :
    (require c fault >>= f).Agrees (require d fault >>= g) Q s t := by
  subst hcd
  cases d with
  | true => exact h rfl
  | false => trivial

theorem agrees_expect {a? : Option α} {fault : SyntaxFault}
    (h : ∀ a, a? = some a → (f a).Agrees (g a) Q s t) :
    (expect fault a? >>= f).Agrees (expect fault a? >>= g) Q s t := by
  cases a? with
  | none => exact agrees_fail fault fault
  | some a => exact h a rfl

/-- Merging the same spans gives the same span in both runs. -/
theorem agrees_merge {f g : Span → Parser β} {u v : Span}
    (h : ∀ w, (f w).Agrees (g w) Q s t) :
    (merge u v >>= f).Agrees (merge u v >>= g) Q s t := by
  simp only [Agrees, Bind.bind, EStateM.bind, merge]
  cases u.merge (some v) with
  | ok w => exact h w
  | error d => trivial

end Frontend.Parser
