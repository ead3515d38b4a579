import Frontend.Proofs.Grammar.ModuleFinishing

/-!
# Two parsers that do the same

`p.Coincides q K s t` compares the parser `p` at the stream `s` with the parser `q` at the stream
`t`: both give the same value, and `K` holds of it and of the tokens left, or both fail in the same
way. Nothing is said when one of them is short of calls.

Where two parsers start with the same step at the same stream, it is enough to compare what they do
behind it (`coincides_of_ensures`).
-/

namespace Frontend.Parser

variable {α β : Type}

/-- The same value, with tokens left of which `K` holds, or the same failure, unless one of the two
results is to be short of calls. -/
inductive SameResult (K : α → TokenStream → TokenStream → Prop) :
    EStateM.Result ParseFailure TokenStream α → EStateM.Result ParseFailure TokenStream α → Prop
  | ok {a : α} {s t : TokenStream} (h : K a s t) : SameResult K (.ok a s) (.ok a t)
  | error (e : ParseFailure) (s t : TokenStream) : SameResult K (.error e s) (.error e t)
  | endlessLeft (s : TokenStream) (r : EStateM.Result ParseFailure TokenStream α) :
      SameResult K (.error .endless s) r
  | endlessRight (r : EStateM.Result ParseFailure TokenStream α) (t : TokenStream) :
      SameResult K r (.error .endless t)

/-- The two parsers have the same result. -/
def Coincides (p q : Parser α) (K : α → TokenStream → TokenStream → Prop) (s t : TokenStream) :
    Prop :=
  SameResult K (p s) (q t)

variable {p q : Parser α} {K L : α → TokenStream → TokenStream → Prop} {s t : TokenStream}

/-! ### Consequences -/

namespace Coincides

theorem refl (p : Parser α) (hK : ∀ a u, K a u u) : p.Coincides p K s s := by
  rw [Coincides]
  cases p s with
  | ok a u => exact .ok (hK a u)
  | error e u => exact .error e u u

theorem symm (h : p.Coincides q K s t) : q.Coincides p (fun a t s => K a s t) t s := by
  unfold Coincides at *
  generalize p s = x, q t = y at *
  cases h with
  | ok hK => exact .ok hK
  | error e => exact .error e _ _
  | endlessLeft => exact .endlessRight _ _
  | endlessRight => exact .endlessLeft _ _

theorem mono (h : p.Coincides q K s t) (hK : ∀ a s' t', K a s' t' → L a s' t') :
    p.Coincides q L s t := by
  unfold Coincides at *
  generalize p s = x, q t = y at *
  cases h with
  | ok ha => exact .ok (hK _ _ _ ha)
  | error e => exact .error e _ _
  | endlessLeft => exact .endlessLeft _ _
  | endlessRight => exact .endlessRight _ _

theorem bind {f g : α → Parser β} {L : β → TokenStream → TokenStream → Prop}
    (h : p.Coincides q K s t) (hf : ∀ a s' t', K a s' t' → (f a).Coincides (g a) L s' t') :
    (p >>= f).Coincides (q >>= g) L s t := by
  unfold Coincides at *
  simp only [Bind.bind, EStateM.bind]
  generalize p s = x, q t = y at *
  cases h with
  | ok ha => exact hf _ _ _ ha
  | error e => exact .error e _ _
  | endlessLeft => exact .endlessLeft _ _
  | endlessRight => exact .endlessRight _ _

/-- The second parser does more behind the value of the first one. -/
theorem bind_right {g : α → Parser α} (h : p.Coincides q K s t)
    (hg : ∀ a s' t', K a s' t' → (pure a : Parser α).Coincides (g a) L s' t') :
    p.Coincides (q >>= g) L s t := by
  rw [← bind_pure p]
  exact h.bind hg

/-- What two parsers read from tokens is the same if none of them is short of calls. -/
theorem run'_eq {tokens : List Token} (h : p.Coincides q K (.ofList tokens) (.ofList tokens))
    (hp : p.Finishes (.ofList tokens)) (hq : q.Finishes (.ofList tokens)) :
    p.run' tokens = q.run' tokens := by
  unfold Coincides Finishes Ensures at *
  rw [run', run']
  generalize p (.ofList tokens) = x, q (.ofList tokens) = y at *
  cases h with
  | ok => rfl
  | error => rfl
  | endlessLeft => exact hp.elim
  | endlessRight => exact hq.elim

end Coincides

/-! ### Steps -/

variable {f g : α → Parser β} {M : β → TokenStream → TokenStream → Prop}

theorem coincides_pure {a : α} (h : K a s t) : (pure a : Parser α).Coincides (pure a) K s t :=
  .ok h

/-- Both parsers start with the same step at the same stream. -/
theorem coincides_of_ensures (h : p.Ensures (fun a u => (f a).Coincides (g a) M u u) Fails s) :
    (p >>= f).Coincides (p >>= g) M s s := by
  unfold Ensures at h
  unfold Coincides at *
  simp only [Bind.bind, EStateM.bind]
  cases hp : p s with
  | ok a u => simpa only [hp] using h
  | error e u => exact .error e u u

/-- A choice by tests that have the same result for both parsers. -/
theorem coincides_ite {c d : Prop} [Decidable c] [Decidable d] {p' q' : Parser α} (hcd : d ↔ c)
    (hthen : c → p.Coincides q K s t) (helse : ¬ c → p'.Coincides q' K s t) :
    (if c then p else p').Coincides (if d then q else q') K s t := by
  by_cases hc : c
  · rw [if_pos hc, if_pos (hcd.mpr hc)]
    exact hthen hc
  · rw [if_neg hc, if_neg (mt hcd.mp hc)]
    exact helse hc

theorem coincides_repeated {p q : Nat → Parser α} (h : (p s.fuel).Coincides (q t.fuel) K s t) :
    (repeated p).Coincides (repeated q) K s t := h

theorem coincides_skipContinuation {f g : Unit → Parser β} {c : TokenKind → Bool}
    (h : (f ()).Coincides (g ()) M (s.skipContinuation c) (t.skipContinuation c)) :
    (skipContinuation c >>= f).Coincides (skipContinuation c >>= g) M s t := h

theorem coincides_current {f g : Token → Parser β}
    (h : (f s.current).Coincides (g s.current) M s s) :
    (current >>= f).Coincides (current >>= g) M s s := h

theorem coincides_merge {f g : Span → Parser β} {u v : Span}
    (h : ∀ w, (f w).Coincides (g w) M s t) :
    (merge u v >>= f).Coincides (merge u v >>= g) M s t := by
  unfold Coincides at *
  simp only [Bind.bind, EStateM.bind, merge]
  cases u.merge (some v) with
  | ok w => exact h w
  | error d => exact .error _ _ _

end Frontend.Parser
