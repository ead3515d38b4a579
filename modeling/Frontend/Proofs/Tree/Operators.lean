import Frontend.Fixity
import Frontend.Proofs.Tree.Spelling

/-!
# Trees of operators

A chain of operands with operators between them can be read as many trees of operations.
`OperatorTree.Grouped` says that a tree obeys the fixities of its operators. If operators of one
precedence associate alike, no chain is the yield of two such trees.
-/

namespace Frontend

/-- The fixity of an operator token. -/
def FixityTable.ofToken (fixities : FixityTable) (o : Token) : Fixity :=
  match o.kind with
  | .operator name => fixities.get name
  | _              => .fallback

/-! ### Chains -/

/-- The tokens of operators, each with the operand behind it. -/
def linkTokens : List (Token × Token) → List Token
  | []             => []
  | (o, x) :: rest => o :: x :: linkTokens rest

theorem linkTokens_append (ls ms : List (Token × Token)) :
    linkTokens (ls ++ ms) = linkTokens ls ++ linkTokens ms := by
  induction ls with
  | nil => rfl
  | cons l ls ih => simp [linkTokens, ih]

theorem linkTokens_injective {ls ms : List (Token × Token)} (h : linkTokens ls = linkTokens ms) :
    ls = ms := by
  induction ls generalizing ms with
  | nil =>
    cases ms with
    | nil => rfl
    | cons m ms => simp [linkTokens] at h
  | cons l ls ih =>
    cases ms with
    | nil => simp [linkTokens] at h
    | cons m ms =>
      simp only [linkTokens, List.cons.injEq] at h
      obtain ⟨ho, hx, hrest⟩ := h
      rw [ih hrest, Prod.ext ho hx]

/-! ### Trees -/

/-- A tree of operations whose leaves are tokens. -/
inductive OperatorTree where
  | operand (token : Token)
  | operation (operator : Token) (left right : OperatorTree)
deriving DecidableEq, Repr

namespace OperatorTree

variable {fixities : FixityTable} {o o' : Token} {l r l' r' t u : OperatorTree}
  {link link' : Token × Token}

/-- The expression of a tree. The span of an operation reaches from its first to its last token. -/
def toExpression : OperatorTree → Expression
  | operand t       => .factor t t.span
  | operation o l r => .operation o l.toExpression r.toExpression
      ⟨l.toExpression.span.start, r.toExpression.span.stop⟩

/-- The operand at the left end of a tree. -/
def first : OperatorTree → Token
  | operand t       => t
  | operation _ l _ => l.first

/-- The operators of a tree from left to right, each with the operand behind it. -/
def links : OperatorTree → List (Token × Token)
  | operand _       => []
  | operation o l r => l.links ++ (o, r.first) :: r.links

theorem tokens_toExpression (t : OperatorTree) :
    t.toExpression.tokens = t.first :: linkTokens t.links := by
  induction t with
  | operand t => rfl
  | operation o l r ihl ihr =>
    simp [toExpression, Expression.tokens, first, links, linkTokens, linkTokens_append, ihl, ihr]

/-! ### Grouping -/

/-- A tree may be the left operand of an operator: it binds tighter, or it associates to the left
with the same precedence and the operator can be chained. -/
def FitsLeft (fixities : FixityTable) (o : Token) : OperatorTree → Prop
  | operand _        => True
  | operation o' _ _ =>
    (fixities.ofToken o).precedence < (fixities.ofToken o').precedence ∨
      (fixities.ofToken o').precedence = (fixities.ofToken o).precedence ∧
        (fixities.ofToken o').associativity = .left ∧ (fixities.ofToken o).associativity ≠ .none

/-- A tree may be the right operand of an operator: it binds tighter, or it has the same precedence
and the operator associates to the right. -/
def FitsRight (fixities : FixityTable) (o : Token) : OperatorTree → Prop
  | operand _        => True
  | operation o' _ _ =>
    (fixities.ofToken o).precedence < (fixities.ofToken o').precedence ∨
      (fixities.ofToken o').precedence = (fixities.ofToken o).precedence ∧
        (fixities.ofToken o).associativity = .right

/-- The operands of every operation in a tree fit its operator. -/
def Grouped (fixities : FixityTable) : OperatorTree → Prop
  | operand _       => True
  | operation o l r =>
    l.Grouped fixities ∧ r.Grouped fixities ∧ l.FitsLeft fixities o ∧ r.FitsRight fixities o

/-- Operators of one precedence associate alike. -/
def AssociateAlike (fixities : FixityTable) (links : List (Token × Token)) : Prop :=
  ∀ a ∈ links, ∀ b ∈ links,
    (fixities.ofToken a.1).precedence = (fixities.ofToken b.1).precedence →
      (fixities.ofToken a.1).associativity = (fixities.ofToken b.1).associativity

/-- The outermost operator, if there is one, has at least the given precedence. -/
def RootFrom (fixities : FixityTable) (band : Nat) : OperatorTree → Prop
  | operand _       => True
  | operation o _ _ => band ≤ (fixities.ofToken o).precedence.val

theorem FitsLeft.rootFrom (h : t.FitsLeft fixities o) :
    t.RootFrom fixities (fixities.ofToken o).precedence.val := by
  cases t with
  | operand _ => trivial
  | operation o' _ _ =>
    rcases h with hlt | ⟨heq, -⟩
    · exact Nat.le_of_lt hlt
    · exact Nat.le_of_eq (congrArg Fin.val heq.symm)

theorem FitsRight.rootFrom (h : t.FitsRight fixities o) :
    t.RootFrom fixities (fixities.ofToken o).precedence.val := by
  cases t with
  | operand _ => trivial
  | operation o' _ _ =>
    rcases h with hlt | ⟨heq, -⟩
    · exact Nat.le_of_lt hlt
    · exact Nat.le_of_eq (congrArg Fin.val heq.symm)

theorem RootFrom.mono {band band' : Nat} (h : t.RootFrom fixities band) (hb : band' ≤ band) :
    t.RootFrom fixities band' := by
  cases t with
  | operand _ => trivial
  | operation _ _ _ => exact Nat.le_trans hb h

/-- In a grouped tree the outermost operator binds loosest. -/
theorem Grouped.le_precedence {band : Nat} (h : t.Grouped fixities)
    (hroot : t.RootFrom fixities band) (hlink : link ∈ t.links) :
    band ≤ (fixities.ofToken link.1).precedence.val := by
  induction t with
  | operand _ => cases hlink
  | operation o l r ihl ihr =>
    obtain ⟨hl, hr, hleft, hright⟩ := h
    rcases List.mem_append.mp hlink with hmem | hmem
    · exact ihl hl (hleft.rootFrom.mono hroot) hmem
    rcases List.mem_cons.mp hmem with rfl | hmem
    · exact hroot
    · exact ihr hr (hright.rootFrom.mono hroot) hmem

/-! ### Operators of one precedence -/

section Operands

variable (h : (operation o l r).Grouped fixities)
  (hp : (fixities.ofToken link.1).precedence = (fixities.ofToken o).precedence)
include h hp

/-- Operators of the same precedence stand in the left operand of an operator only if they
associate to the left. -/
theorem Grouped.associativity_of_left (halike : AssociateAlike fixities (operation o l r).links)
    (hlink : link ∈ l.links) : (fixities.ofToken o).associativity = .left := by
  obtain ⟨hl, -, hleft, -⟩ := h
  cases l with
  | operand _ => cases hlink
  | operation o' l' r' =>
    have hle : (fixities.ofToken o').precedence.val ≤ _ :=
      hl.le_precedence (Nat.le_refl _) hlink
    rcases hleft with hlt | ⟨heq, hassoc, -⟩
    · rw [hp] at hle
      exact absurd hlt (Nat.not_lt.mpr hle)
    · have ho' : (o', r'.first) ∈ (operation o (operation o' l' r') r).links := by
        simp [links]
      have ho : (o, r.first) ∈ (operation o (operation o' l' r') r).links := by
        simp [links]
      rw [← halike _ ho' _ ho heq, hassoc]

/-- An operator of the same precedence stands in the right operand of an operator only if the
latter associates to the right. -/
theorem Grouped.associativity_of_right (hlink : link ∈ r.links) :
    (fixities.ofToken o).associativity = .right := by
  obtain ⟨-, hr, -, hright⟩ := h
  cases r with
  | operand _ => cases hlink
  | operation o' l' r' =>
    have hle : (fixities.ofToken o').precedence.val ≤ _ :=
      hr.le_precedence (Nat.le_refl _) hlink
    rcases hright with hlt | ⟨-, hassoc⟩
    · rw [hp] at hle
      exact absurd hlt (Nat.not_lt.mpr hle)
    · exact hassoc

end Operands

/-! ### Uniqueness -/

/-- The outermost operator of a grouped tree does not stand to the left of that of another one. -/
theorem Grouped.length_links_le (h : (operation o l r).Grouped fixities)
    (h' : (operation o' l' r').Grouped fixities)
    (halike : AssociateAlike fixities (operation o l r).links)
    (heq : (operation o l r).links = (operation o' l' r').links) :
    l'.links.length ≤ l.links.length := by
  have ho : (o, r.first) ∈ (operation o l r).links := by simp [links]
  have ho' : (o', r'.first) ∈ (operation o' l' r').links := by simp [links]
  have hle := h.le_precedence (Nat.le_refl _) (heq ▸ ho')
  have hle' := h'.le_precedence (Nat.le_refl _) (heq ▸ ho)
  have hp : (fixities.ofToken o').precedence = (fixities.ofToken o).precedence :=
    Fin.ext (Nat.le_antisymm hle' hle)
  have hsame := halike _ (heq ▸ ho') _ ho hp
  rcases List.append_eq_append_iff.mp heq with ⟨between, hl', hr⟩ | ⟨between, hl, -⟩
  · cases between with
    | nil => simp [hl']
    | cons first between =>
      obtain ⟨rfl, hrest⟩ := List.cons.inj hr
      -- Each of the two operators is in an operand of the other one.
      have hmem : (o, r.first) ∈ l'.links := by simp [hl']
      have hmem' : (o', r'.first) ∈ r.links := by simp [hrest]
      have hleft := h'.associativity_of_left hp.symm (heq ▸ halike) hmem
      have hright := h.associativity_of_right hp hmem'
      rw [hleft, hright] at hsame
      cases hsame
  · simp [hl]

/-- There is only one grouped tree of a chain whose operators associate alike. -/
theorem Grouped.unique (h : t.Grouped fixities) (h' : u.Grouped fixities)
    (halike : AssociateAlike fixities t.links) (hfirst : t.first = u.first)
    (hlinks : t.links = u.links) : t = u := by
  induction t generalizing u with
  | operand x =>
    cases u with
    | operand y => exact congrArg operand hfirst
    | operation o' l' r' => simp [links] at hlinks
  | operation o l r ihl ihr =>
    cases u with
    | operand y => simp [links] at hlinks
    | operation o' l' r' =>
      have hlength : l.links.length = l'.links.length :=
        Nat.le_antisymm (h'.length_links_le h (hlinks ▸ halike) hlinks.symm)
          (h.length_links_le h' halike hlinks)
      obtain ⟨hleft, hright⟩ := List.append_inj hlinks hlength
      simp only [List.cons.injEq, Prod.mk.injEq] at hright
      obtain ⟨⟨rfl, hfirst'⟩, hright⟩ := hright
      have hl : AssociateAlike fixities l.links := fun a ha b hb =>
        halike a (by simp [links, ha]) b (by simp [links, hb])
      have hr : AssociateAlike fixities r.links := fun a ha b hb =>
        halike a (by simp [links, ha]) b (by simp [links, hb])
      rw [ihl h.1 h'.1 hl hfirst hleft, ihr h.2.1 h'.2.1 hr hfirst' hright]

/-! ### Clashes -/

/-- One operator stands before another one of the same precedence in a chain, and what stands
between them binds tighter. -/
def Neighbours (fixities : FixityTable) (links : List (Token × Token)) (a b : Token) : Prop :=
  ∃ x y before between after, links = before ++ (a, x) :: (between ++ (b, y) :: after) ∧
    (fixities.ofToken a).precedence = (fixities.ofToken b).precedence ∧
    ∀ link ∈ between, (fixities.ofToken a).precedence < (fixities.ofToken link.1).precedence

/-- Two neighbours of which one is not associative. -/
def Clash (fixities : FixityTable) (links : List (Token × Token)) (a b : Token) : Prop :=
  Neighbours fixities links a b ∧
    ((fixities.ofToken a).associativity = .none ∨ (fixities.ofToken b).associativity = .none)

variable {a b : Token} {links : List (Token × Token)}

theorem Neighbours.prepend (h : Neighbours fixities links a b) (more : List (Token × Token)) :
    Neighbours fixities (more ++ links) a b := by
  obtain ⟨x, y, before, between, after, rfl, hp, hbetween⟩ := h
  exact ⟨x, y, more ++ before, between, after, (List.append_assoc ..).symm, hp, hbetween⟩

theorem Clash.prepend (h : Clash fixities links a b) (more : List (Token × Token)) :
    Clash fixities (more ++ links) a b :=
  ⟨h.1.prepend more, h.2⟩

theorem Clash.exists_nonAssociative (h : Clash fixities links a b) :
    ∃ link ∈ links, (fixities.ofToken link.1).associativity = .none := by
  obtain ⟨⟨x, y, before, between, after, rfl, -⟩, hnone | hnone⟩ := h
  · exact ⟨(a, x), by simp, hnone⟩
  · exact ⟨(b, y), by simp, hnone⟩

/-- Of two places in a list, one is before the other or they are the same. -/
theorem places {α : Type} {xs ys before after : List α} {m a : α}
    (h : xs ++ m :: ys = before ++ a :: after) :
    (∃ between, xs = before ++ a :: between ∧ after = between ++ m :: ys) ∨
      (xs = before ∧ m = a ∧ ys = after) ∨
      ∃ between, before = xs ++ m :: between ∧ ys = between ++ a :: after := by
  rcases List.append_eq_append_iff.mp h with ⟨between, hbefore, hrest⟩ | ⟨between, hxs, hrest⟩
  · cases between with
    | nil =>
      obtain ⟨rfl, rfl⟩ := List.cons.inj hrest
      exact .inr (.inl ⟨by simp [hbefore], rfl, rfl⟩)
    | cons _ between =>
      obtain ⟨rfl, hys⟩ := List.cons.inj hrest
      exact .inr (.inr ⟨between, hbefore, hys⟩)
  · cases between with
    | nil =>
      obtain ⟨rfl, rfl⟩ := List.cons.inj hrest
      exact .inr (.inl ⟨by simp [hxs], rfl, rfl⟩)
    | cons _ between =>
      obtain ⟨rfl, hafter⟩ := List.cons.inj hrest
      exact .inl ⟨between, hxs, hafter⟩

/-- An operator whose neighbour in its left operand has its precedence can be chained with it. -/
theorem FitsLeft.associativity_of_neighbour {before between : List (Token × Token)}
    (hfits : t.FitsLeft fixities o) (h : t.Grouped fixities)
    (hlinks : t.links = before ++ link :: between)
    (hp : (fixities.ofToken link.1).precedence = (fixities.ofToken o).precedence)
    (hbetween : ∀ m ∈ between,
      (fixities.ofToken link.1).precedence < (fixities.ofToken m.1).precedence) :
    (fixities.ofToken link.1).associativity = .left ∧
      (fixities.ofToken o).associativity ≠ .none := by
  cases t with
  | operand _ => simp [links] at hlinks
  | operation o' l r =>
    have hlink : link ∈ (operation o' l r).links := by simp [hlinks]
    have hle : (fixities.ofToken o').precedence.val ≤ _ := h.le_precedence (Nat.le_refl _) hlink
    rcases hfits with hlt | ⟨heq, hleft, hchain⟩
    · rw [hp] at hle
      exact absurd hlt (Nat.not_lt.mpr hle)
    rcases places hlinks with ⟨_, -, hrest⟩ | ⟨-, rfl, -⟩ | ⟨_, -, hr⟩
    · have hlt := hbetween (o', r.first) (by simp [hrest])
      rw [hp, heq] at hlt
      exact absurd hlt (Nat.lt_irrefl _)
    · exact ⟨hleft, hchain⟩
    · have hlink : link ∈ r.links := by simp [hr]
      have hright := h.associativity_of_right (hp.trans heq.symm) hlink
      rw [hleft] at hright
      cases hright

/-- In a grouped tree the first of two operators that clash associates to the right. -/
theorem Grouped.right_of_clash (h : t.Grouped fixities) (hclash : Clash fixities t.links a b) :
    (fixities.ofToken a).associativity = .right := by
  induction t with
  | operand _ =>
    obtain ⟨⟨_, _, _, _, _, hlinks, -⟩, -⟩ := hclash
    simp [links] at hlinks
  | operation o l r ihl ihr =>
    obtain ⟨⟨x, y, before, between, after, hlinks, hp, hbetween⟩, hnone⟩ := hclash
    rcases places hlinks with ⟨more, hl, hrest⟩ | ⟨-, hfirst, hr⟩ | ⟨more, -, hr⟩
    · rcases places hrest.symm with ⟨more', hmore, -⟩ | ⟨rfl, hsecond, -⟩ | ⟨_, hbetween', -⟩
      · exact ihl h.1 ⟨⟨x, y, before, between, more', by rw [hl, hmore], hp, hbetween⟩, hnone⟩
      · -- The second operator is the outermost one, and the first one is next to it.
        cases hsecond
        obtain ⟨hleft, hchain⟩ := h.2.2.1.associativity_of_neighbour h.1 hl hp hbetween
        rcases hnone with hnone | hnone
        · rw [hleft] at hnone
          cases hnone
        · exact absurd hnone hchain
      · -- The outermost operator is between the two, but it does not bind tighter.
        have hlink : (a, x) ∈ (operation o l r).links := by simp [hlinks]
        have hle : (fixities.ofToken o).precedence.val ≤ _ := h.le_precedence (Nat.le_refl _) hlink
        have hlt := hbetween (o, r.first) (by simp [hbetween'])
        exact absurd hlt (Nat.not_lt.mpr hle)
    · cases hfirst
      have hlink : (b, y) ∈ r.links := by simp [hr]
      exact h.associativity_of_right hp.symm hlink
    · exact ihr h.2.1 ⟨⟨x, y, more, between, after, hr, hp, hbetween⟩, hnone⟩

end OperatorTree

end Frontend
