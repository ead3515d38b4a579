import Frontend.Token.Basic

/-!
# Expressions

An expression is a tree whose leaves are tokens. Every node has the span it was read from, which
includes the brackets around the expression, if there are any.
-/

namespace Frontend

/-- An expression of the language. -/
inductive Expression where
  /-- An identifier or a literal. -/
  | factor (token : Token) (span : Span)
  /-- A value applied to an argument, one directly behind the other. -/
  | application (callee argument : Expression) (span : Span)
  /-- An operator between its operands, or a dot between a value and the name of its member. -/
  | operation (operator : Token) (left right : Expression) (span : Span)
  | tuple (elements : List Expression) (span : Span)
  | list (elements : List Expression) (span : Span)
  /-- A text literal with expressions in it: text segments and expressions in turns. -/
  | interpolation (segments : List Expression) (span : Span)
deriving Repr

namespace Expression

/-- The span of the outermost node. -/
def span : Expression → Span
  | factor _ s        => s
  | application _ _ s => s
  | operation _ _ _ s => s
  | tuple _ s         => s
  | list _ s          => s
  | interpolation _ s => s

/-- The same expression with another span of its outermost node. -/
def withSpan (s : Span) : Expression → Expression
  | factor t _        => factor t s
  | application f a _ => application f a s
  | operation o l r _ => operation o l r s
  | tuple es _        => tuple es s
  | list es _         => list es s
  | interpolation g _ => interpolation g s

@[simp] theorem span_withSpan (e : Expression) (s : Span) : (e.withSpan s).span = s := by
  cases e <;> rfl

@[simp] theorem withSpan_withSpan (e : Expression) (s t : Span) :
    (e.withSpan s).withSpan t = e.withSpan t := by
  cases e <;> rfl

/-- The expression may be applied to an argument. Literals, tuples, lists and interpolations may
not. -/
def isCallable : Expression → Bool
  | factor t _          => t.kind.isIdentifier
  | application _ _ _   => true
  | operation _ _ _ _   => true
  | tuple _ _           => false
  | list _ _            => false
  | interpolation _ _   => false

end Expression

end Frontend
