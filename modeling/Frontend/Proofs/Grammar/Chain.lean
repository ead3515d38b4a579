import Frontend.Proofs.Grammar.Acceptance
import Frontend.Proofs.Tree.Operators

/-!
# Chains of operations

The operands of a chain may be any applications. The bands accept a chain unless two of its
operators cannot be chained, and what they make of it is one of the trees with the operands in
their order (`Groups`); the band decides only how much of the chain is read.
-/

namespace Frontend

/-! ### Links -/

/-- An operator, and what is known of the operand behind it. -/
structure Link where
  operator : Token
  operand : Expression → Prop

/-- The expression is a tree of operations over an operand and the links behind it. -/
inductive Groups : (Expression → Prop) → List Link → Expression → Prop
  | operand {P : Expression → Prop} {e : Expression} (h : P e) : Groups P [] e
  | operation {P P' : Expression → Prop} {links more : List Link} {o : Token}
      {left right : Expression} {span : Span} (hleft : Groups P links left)
      (hright : Groups P' more right) :
      Groups P (links ++ ⟨o, P'⟩ :: more) (.operation o left right span)

namespace Groups

variable {P P' : Expression → Prop} {links : List Link} {e : Expression} {o : Token}

theorem of_nil (h : Groups P [] e) : P e := by
  generalize hlinks : ([] : List Link) = links at h
  cases h with
  | operand h => exact h
  | operation _ _ => simp at hlinks

/-- A tree with an operator is an operation. -/
theorem isCallable (h : Groups P links e) (hlinks : links ≠ []) : e.isCallable := by
  cases h with
  | operand _ => exact absurd rfl hlinks
  | operation _ _ => rfl

/-- There is one tree of two operands. -/
theorem of_singleton (h : Groups P [⟨o, P'⟩] e) :
    ∃ left right span, e = .operation o left right span ∧ P left ∧ P' right := by
  generalize hlinks : [(⟨o, P'⟩ : Link)] = links at h
  cases h with
  | operand _ => cases hlinks
  | @operation _ _ links more _ left right span hleft hright =>
    cases links with
    | nil =>
      obtain ⟨hlink, rfl⟩ := List.cons.inj hlinks
      cases hlink
      exact ⟨left, right, span, rfl, hleft.of_nil, hright.of_nil⟩
    | cons link links => simp at hlinks

end Groups

variable {fixities : FixityTable} {link : Link} {links rest : List Link} {band : Nat}
  {before? : Option Associativity}

/-- The next operator, if there is one, is looser than the band. -/
def LooserNext (fixities : FixityTable) (band : Nat) (links : List Link) : Prop :=
  ∀ link ∈ links.head?, (fixities.ofToken link.operator).precedence.val < band

theorem LooserNext.mono {band' : Nat} (h : LooserNext fixities band links) (hb : band ≤ band') :
    LooserNext fixities band' links :=
  fun link hlink => Nat.lt_of_lt_of_le (h link hlink) hb

theorem LooserNext.eq_nil (h : LooserNext fixities 0 links) : links = [] := by
  cases links with
  | nil => rfl
  | cons link rest => exact absurd (h link rfl) (Nat.not_lt_zero _)

/-- The operators can be chained, behind one that associates as given: all of them are associative,
or there is a single one. -/
def Chainable (fixities : FixityTable) (before? : Option Associativity) (links : List Link) :
    Prop :=
  links = [] ∨ before? = none ∧ links.length = 1 ∨
    before? ≠ some .none ∧ ∀ link ∈ links, (fixities.ofToken link.operator).associativity ≠ .none

namespace Chainable

theorem of_associative
    (h : ∀ link ∈ links, (fixities.ofToken link.operator).associativity ≠ .none) :
    Chainable fixities none links :=
  .inr (.inr ⟨by simp, h⟩)

theorem singleton (link : Link) : Chainable fixities none [link] := .inr (.inl ⟨rfl, rfl⟩)

theorem allowed (h : Chainable fixities before? (link :: rest)) :
    before?.any (·.forbidsChain (fixities.ofToken link.operator).associativity) = false := by
  rcases h with h | ⟨rfl, -⟩ | ⟨hbefore, hlinks⟩
  · cases h
  · rfl
  · have hlink := hlinks link List.mem_cons_self
    cases before? with
    | none => rfl
    | some a =>
      have ha : a ≠ .none := fun ha => hbefore (congrArg some ha)
      simp [Associativity.forbidsChain, ha, hlink]

theorem of_append {taken : List Link} (h : Chainable fixities none (taken ++ rest)) :
    Chainable fixities none rest := by
  rcases h with hnil | ⟨-, hlength⟩ | ⟨-, hlinks⟩
  · exact .inl (List.append_eq_nil_iff.mp hnil).2
  · cases rest with
    | nil => exact .inl rfl
    | cons link rest =>
      simp only [List.length_append, List.length_cons] at hlength
      exact .inr (.inl ⟨rfl, by rw [List.length_cons]; omega⟩)
  · exact .of_associative fun link hlink => hlinks link (List.mem_append_right taken hlink)

/-- The operators behind one that has been read, in its right operand. -/
theorem inside (h : Chainable fixities before? (link :: rest)) : Chainable fixities none rest := by
  rcases h with h | ⟨-, hlength⟩ | ⟨-, hlinks⟩
  · cases h
  · exact .inl (List.length_eq_zero_iff.mp (Nat.succ.inj hlength))
  · exact .of_associative fun link' hlink' => hlinks link' (List.mem_cons_of_mem link hlink')

/-- The operators behind one that has been read, and behind its right operand. -/
theorem behind {more rest' : List Link} (h : Chainable fixities before? (link :: rest))
    (hrest : more ++ rest' = rest) :
    Chainable fixities (some (fixities.ofToken link.operator).associativity) rest' := by
  subst hrest
  rcases h with h | ⟨-, hlength⟩ | ⟨-, hlinks⟩
  · cases h
  · have hnil := List.length_eq_zero_iff.mp (Nat.succ.inj hlength)
    exact .inl (List.append_eq_nil_iff.mp hnil).2
  · refine .inr (.inr ⟨?_, fun link' hlink' => ?_⟩)
    · exact fun hnone => hlinks link List.mem_cons_self (Option.some.inj hnone)
    · exact hlinks link' (List.mem_cons_of_mem link (List.mem_append_right more hlink'))

end Chainable

namespace Parser

open TokenStream (skipContinuation_of_ne advance_cons current_cons)

/-- The links lie between two places of a stream: each operator with an application behind it, and
no operator behind the last one. -/
inductive Chain (fixities : FixityTable) : List Link → TokenStream → TokenStream → Prop
  | nil {s : TokenStream} (hbreak : s.current.kind ≠ .lineBreak)
      (hs : s.current.kind.isOperator = false) : Chain fixities [] s s
  | cons {o last : Token} {rest : List Token} {P : Expression → Prop} {links : List Link}
      {t u : TokenStream} (ho : o.kind.isOperator)
      (h : Accepts (applicationWithin fixities) ⟨rest, last⟩ (Gives fun e v => P e ∧ v = t))
      (hlinks : Chain fixities links t u) :
      Chain fixities (⟨o, P⟩ :: links) ⟨o :: rest, last⟩ u

/-- What the bands make of a chain within a number of calls. -/
structure ChainingWithin (fixities : FixityTable) (n : Nat) : Prop where
  binary : ∀ band P links s t u,
    Accepts (applicationWithin fixities) s (Gives fun e v => P e ∧ v = t) →
    Chain fixities links t u → Chainable fixities none links →
    (binaryWithin fixities n band).Ensures
      (Gives fun e v => ∃ taken rest, taken ++ rest = links ∧ Groups P taken e ∧
        Chain fixities rest v u ∧ LooserNext fixities band rest)
      (fun e _ => ¬ e.IsFault) s
  operations : ∀ band before? P taken links left s u, Groups P taken left →
    Chain fixities links s u → Chainable fixities before? links →
    LooserNext fixities (band + 1) links →
    (operationsWithin fixities n band before? left).Ensures
      (fun e v => ∃ more rest, more ++ rest = links ∧ Groups P (taken ++ more) e ∧
        Chain fixities rest v u ∧ LooserNext fixities band rest)
      (fun e _ => ¬ e.IsFault) s

namespace ChainingWithin

variable {n : Nat} (h : ChainingWithin fixities n)
include h

theorem binary_succ (band : Nat) (P : Expression → Prop) (links : List Link) (s t u : TokenStream)
    (hs : Accepts (applicationWithin fixities) s (Gives fun e v => P e ∧ v = t))
    (hlinks : Chain fixities links t u) (hchain : Chainable fixities none links) :
    (binaryWithin fixities (n + 1) band).Ensures
      (Gives fun e v => ∃ taken rest, taken ++ rest = links ∧ Groups P taken e ∧
        Chain fixities rest v u ∧ LooserNext fixities band rest)
      (fun e _ => ¬ e.IsFault) s := by
  rw [binaryWithin, ensures_ite]
  constructor
  · intro hband
    refine (hs n).mono ?_ fun _ _ => id
    rintro _ _ ⟨e, rfl, he, rfl⟩
    refine ⟨e, rfl, [], links, rfl, .operand he, hlinks, fun link _ => ?_⟩
    exact Nat.lt_of_lt_of_le (fixities.ofToken link.operator).precedence.isLt hband
  · intro _
    rw [ensures_bind]
    refine (h.binary (band + 1) P links s t u hs hlinks hchain).mono ?_ fun _ _ => id
    rintro _ v ⟨left, rfl, taken, rest, rfl, hleft, hrest, hnext⟩
    rw [ensures_bind]
    refine (h.operations band none P taken rest left v u hleft hrest hchain.of_append hnext).mono ?_
      fun _ _ => id
    rintro e w ⟨more, rest', rfl, he, hw, hnext'⟩
    exact ⟨e, rfl, taken ++ more, rest', List.append_assoc _ _ _, he, hw, hnext'⟩

theorem operations_succ (band : Nat) (before? : Option Associativity) (P : Expression → Prop)
    (taken links : List Link) (left : Expression) (s u : TokenStream) (hleft : Groups P taken left)
    (hlinks : Chain fixities links s u) (hchain : Chainable fixities before? links)
    (hnext : LooserNext fixities (band + 1) links) :
    (operationsWithin fixities (n + 1) band before? left).Ensures
      (fun e v => ∃ more rest, more ++ rest = links ∧ Groups P (taken ++ more) e ∧
        Chain fixities rest v u ∧ LooserNext fixities band rest)
      (fun e _ => ¬ e.IsFault) s := by
  have hstay : LooserNext fixities band links → ∃ more rest, more ++ rest = links ∧
      Groups P (taken ++ more) left ∧ Chain fixities rest s u ∧ LooserNext fixities band rest :=
    fun hband => ⟨[], links, rfl, by rwa [List.append_nil], hlinks, hband⟩
  rw [operationsWithin]
  cases hlinks with
  | nil hbreak hs =>
    simp only [ensures_bind, ensures_skipContinuation, skipContinuation_of_ne _ hbreak,
      ensures_current]
    split
    · next name hname => simp [hname, TokenKind.isOperator] at hs
    · exact hstay (by simp [LooserNext])
  | @cons o last rest P' links t u ho hright hlinks =>
    obtain ⟨name, hname⟩ := TokenKind.isOperator_iff.mp ho
    have hbreak : (⟨o :: rest, last⟩ : TokenStream).current.kind ≠ .lineBreak := by simp [hname]
    have hfixity : fixities.get name = fixities.ofToken o := by simp [FixityTable.ofToken, hname]
    simp only [ensures_bind, ensures_skipContinuation, skipContinuation_of_ne _ hbreak,
      ensures_current, current_cons, hname, hfixity, ensures_ite]
    refine ⟨fun hband => ?_, fun hband => hstay ?_⟩
    · have hallowed := hchain.allowed
      simp only [ensures_require, ensures_advance, advance_cons (t := o) (by simp [hname]),
        hallowed]
      refine ⟨fun _ => ?_, by simp⟩
      refine (h.binary _ P' links _ t u hright hlinks hchain.inside).mono ?_ fun _ _ => id
      rintro _ v ⟨right, rfl, more, rest', hrest', hgroups, hv, hnext'⟩
      simp only [ensures_expect]
      refine ⟨?_, by simp⟩
      rintro _ ⟨⟩
      refine accepts_merge ?_
      have hoperation : Groups P (taken ++ ⟨o, P'⟩ :: more)
          (.operation o left right ⟨left.span.start, right.span.stop⟩) :=
        .operation hleft hgroups
      have hnext'' := hnext'.mono (hband ▸ Fixity.rightBand_le (fixities.ofToken o))
      refine (h.operations band _ P _ rest' _ v u hoperation hv (hchain.behind hrest')
        hnext'').mono ?_ fun _ _ => id
      rintro e w ⟨more', rest'', rfl, he, hw⟩
      refine ⟨⟨o, P'⟩ :: (more ++ more'), rest'', ?_, ?_, hw⟩
      · simp [← hrest']
      · simpa using he
    · rintro _ ⟨⟩
      exact Nat.lt_of_le_of_ne (Nat.le_of_lt_succ (hnext _ rfl)) hband

end ChainingWithin

/-- The bands read the chain, within any number of calls. -/
theorem chainingWithin (fixities : FixityTable) : ∀ n, ChainingWithin fixities n
  | 0     => ⟨fun _ _ _ _ _ _ _ _ _ => id, fun _ _ _ _ _ _ _ _ _ _ _ _ => id⟩
  | n + 1 =>
    have h := chainingWithin fixities n
    { binary := h.binary_succ
      operations := h.operations_succ }

/-- The loosest band reads all of a chain. -/
theorem accepts_binary {P : Expression → Prop} {s t u : TokenStream}
    (hs : Accepts (applicationWithin fixities) s (Gives fun e v => P e ∧ v = t))
    (hlinks : Chain fixities links t u) (hchain : Chainable fixities none links) :
    Accepts (binaryWithin fixities · 0) s (Gives fun e v => Groups P links e ∧ v = u) := by
  intro n
  refine ((chainingWithin fixities n).binary 0 P links s t u hs hlinks hchain).mono ?_ fun _ _ => id
  rintro _ v ⟨e, rfl, taken, rest, rfl, he, hv, hnext⟩
  obtain rfl := hnext.eq_nil
  rw [List.append_nil]
  cases hv
  exact ⟨e, rfl, he, rfl⟩

end Parser

end Frontend
