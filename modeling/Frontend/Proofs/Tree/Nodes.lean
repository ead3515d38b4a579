import Frontend.Proofs.Token.Kind
import Frontend.Tree.Expression

/-!
# The nodes of expressions

`e.Everywhere P` says that `P` holds of every node of an expression. `Expression.NodeShaped` is what
holds of each node that a parser builds, whatever tokens it is given.
-/

namespace Frontend

/-- A token that is an expression by itself. -/
def TokenKind.isLeaf : TokenKind → Bool
  | identifier _ => true
  | number _     => true
  | character _  => true
  | text _       => true
  | _            => false

theorem TokenKind.isLeaf_of_isIdentifier {k : TokenKind} (h : k.isIdentifier) : k.isLeaf := by
  obtain ⟨name, rfl⟩ := isIdentifier_iff.mp h
  rfl

theorem TokenKind.isLeaf_of_isText {k : TokenKind} (h : k.isText) : k.isLeaf := by
  obtain ⟨content, rfl⟩ := isText_iff.mp h
  rfl

namespace Expression

@[simp] theorem span_factor (t : Token) (s : Span) : (factor t s).span = s := rfl

/-! ### All nodes -/

/-- The expressions right below the outermost node, from left to right. -/
def children : Expression → List Expression
  | factor _ _            => []
  | application f a _     => [f, a]
  | operation _ l r _     => [l, r]
  | tuple elements _      => elements
  | list elements _       => elements
  | interpolation parts _ => parts

@[simp] theorem children_withSpan (e : Expression) (s : Span) :
    (e.withSpan s).children = e.children := by
  cases e <;> rfl

/-- The tokens of the outermost node itself. -/
def nodeTokens : Expression → List Token
  | factor t _        => [t]
  | application _ _ _ => []
  | operation o _ _ _ => [o]
  | tuple _ _         => []
  | list _ _          => []
  | interpolation _ _ => []

@[simp] theorem nodeTokens_withSpan (e : Expression) (s : Span) :
    (e.withSpan s).nodeTokens = e.nodeTokens := by
  cases e <;> rfl

/-- A predicate holds of an expression and of all expressions within it. -/
inductive Everywhere (P : Expression → Prop) : Expression → Prop
  | node {e : Expression} (here : P e) (inside : ∀ c ∈ e.children, Everywhere P c) : Everywhere P e

namespace Everywhere

variable {P Q : Expression → Prop} {e : Expression}

theorem here (h : e.Everywhere P) : P e := by
  cases h with
  | node here _ => exact here

theorem inside (h : e.Everywhere P) : ∀ c ∈ e.children, c.Everywhere P := by
  cases h with
  | node _ inside => exact inside

theorem imp (h : e.Everywhere P) (himp : ∀ e, P e → Q e) : e.Everywhere Q := by
  induction h with
  | node here _ ih => exact .node (himp _ here) ih

/-- Another outermost node over the same expressions. -/
theorem withSpan (h : e.Everywhere P) {span : Span} (here : P (e.withSpan span)) :
    (e.withSpan span).Everywhere P :=
  .node here (by simpa using h.inside)

end Everywhere

/-! ### The shape of a node -/

/-- An identifier. -/
def isName : Expression → Bool
  | factor t _ => t.kind.isIdentifier
  | _          => false

/-- A text literal without expressions in it. -/
def isText : Expression → Bool
  | factor t _ => t.kind.isText
  | _          => false

/-- The text segments of an interpolation stand at the even places, with an expression between
each two of them. -/
structure TakesTurns (segments : List Expression) : Prop where
  odd : segments.length % 2 = 1
  length_ge : 3 ≤ segments.length
  texts : ∀ i e, segments[i]? = some e → i % 2 = 0 → e.isText

/-- What holds of each node by itself. -/
def NodeShaped : Expression → Prop
  | factor t _             => t.kind.isLeaf
  | application callee _ _ => callee.isCallable
  | operation o _ right _  =>
    o.kind.isOperator ∨ o.kind = .symbol .dotAccess ∧ right.isName
  | tuple elements _       => elements.length ≠ 1
  | list _ _               => True
  | interpolation parts _  => TakesTurns parts

theorem NodeShaped.withSpan {e : Expression} (h : e.NodeShaped) (span : Span) :
    (e.withSpan span).NodeShaped := by
  cases e <;> exact h

theorem Everywhere.leaf {t : Token} {span : Span} (ht : t.kind.isLeaf) :
    (factor t span).Everywhere NodeShaped :=
  .node ht nofun

theorem Everywhere.pair {e first second : Expression} (here : e.NodeShaped)
    (hchildren : e.children = [first, second]) (hfirst : first.Everywhere NodeShaped)
    (hsecond : second.Everywhere NodeShaped) : e.Everywhere NodeShaped := by
  refine .node here ?_
  rw [hchildren]
  exact List.forall_mem_cons.mpr ⟨hfirst, List.forall_mem_singleton.mpr hsecond⟩

end Expression

end Frontend
