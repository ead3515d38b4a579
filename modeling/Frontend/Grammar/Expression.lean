import Frontend.Fixity
import Frontend.Grammar.Parser
import Frontend.Tree.Expression

/-!
# Reading expressions

An expression is a sequence of binary expressions with commas between them:

    Expression  ::= Binary ("," Binary)*
    Binary      ::= Application (#Operator Application)*
    Application ::= Factor Factor*
    Factor      ::= Primary (#DotAccess #Identifier)*
    Primary     ::= #Identifier | #Number | #Character | Text
                  | "(" Expression? ")" | "{" (Binary ("," Binary)*)? "}"
    Text        ::= #Text (#InterpolationOpen Expression #InterpolationClose #Text)*

The operators of a binary expression are grouped by their fixities: there is a band for each
precedence, and the operands of a band are the expressions of the tighter bands. Only callable
factors are applied.

Each parser of an optional expression gives nothing, and reads nothing, at a token that no such
expression starts with. The first argument bounds the depth of the calls.
-/

namespace Frontend

/-- A token that a factor may start with. -/
def TokenKind.startsFactor : TokenKind → Bool
  | .identifier _ => true
  | .number _     => true
  | .character _  => true
  | .text _       => true
  | .symbol s     => s == .openRound || s == .openCurly
  | _             => false

/-- The associativities of two neighbouring operators of one precedence forbid to chain them. -/
def Associativity.forbidsChain (first second : Associativity) : Bool :=
  first == .none || second == .none

/-- The band of the right operand of an operator. -/
def Fixity.rightBand (f : Fixity) : Nat :=
  match f.associativity with
  | .right => f.precedence.val
  | _      => f.precedence.val + 1

namespace Parser

/-- The span from the first to the last of a sequence of expressions. -/
def cover (first : Expression) (rest : List Expression) : Parser Span :=
  merge first.span ((rest.getLast?.getD first).span)

variable (fixities : FixityTable)

mutual

/-- Read an expression: a binary expression, or a tuple of several. -/
def expressionWithin : Nat → Parser (Option Expression)
  | 0     => diverge
  | n + 1 => do
    let some first ← binaryWithin n 0 | return none
    skipContinuation (·.isSymbol .comma)
    if (← current).kind.isSymbol .comma then
      let rest ← elementsWithin n
      return some (.tuple (first :: rest) (← cover first rest))
    else return some first

/-- Read the elements that follow the first one, each behind a comma. -/
def elementsWithin : Nat → Parser (List Expression)
  | 0     => diverge
  | n + 1 => do
    if ← consume .comma then
      let element ← expect .expressionExpected (← binaryWithin n 0)
      skipContinuation (·.isSymbol .comma)
      return element :: (← elementsWithin n)
    else return []

/-- Read an expression of the operators in a band and the tighter ones. -/
def binaryWithin : Nat → Nat → Parser (Option Expression)
  | 0, _        => diverge
  | n + 1, band =>
    if Fixity.maxPrecedence < band then applicationWithin n
    else do
      let some left ← binaryWithin n (band + 1) | return none
      return some (← operationsWithin n band none left)

/-- Read the operators of a band that follow an operand, and their right operands. The
associativity of the operator before is given, if there is one. -/
def operationsWithin : Nat → Nat → Option Associativity → Expression → Parser Expression
  | 0, _, _, _                 => diverge
  | n + 1, band, before?, left => do
    skipContinuation (·.isOperator)
    let token ← current
    match token.kind with
    | .operator name =>
      let fixity := fixities.get name
      if fixity.precedence.val = band then
        require (!before?.any (·.forbidsChain fixity.associativity)) .nonAssociativeOperator
        advance
        let right ← expect .expressionExpected (← binaryWithin n fixity.rightBand)
        let span ← merge left.span right.span
        operationsWithin n band (some fixity.associativity) (.operation token left right span)
      else return left
    | _              => return left

/-- Read a factor and, if it is callable, the arguments that follow it. -/
def applicationWithin : Nat → Parser (Option Expression)
  | 0     => diverge
  | n + 1 => do
    let some callee ← factorWithin n | return none
    return some (← argumentsWithin n callee)

/-- Apply an expression to the factors that follow it as long as the result is callable. -/
def argumentsWithin : Nat → Expression → Parser Expression
  | 0, _          => diverge
  | n + 1, callee =>
    if callee.isCallable then do
      let some argument ← factorWithin n | return callee
      let span ← merge callee.span argument.span
      argumentsWithin n (.application callee argument span)
    else return callee

/-- Read a primary expression and the accesses to members that follow it. -/
def factorWithin : Nat → Parser (Option Expression)
  | 0     => diverge
  | n + 1 => do
    skipContinuation (·.startsFactor)
    let some primary ← primaryWithin n | return none
    return some (← membersWithin n primary)

/-- Read the accesses to members that follow an expression. -/
def membersWithin : Nat → Expression → Parser Expression
  | 0, _         => diverge
  | n + 1, value => do
    let operator ← current
    if ← consume .dotAccess then
      let member ← take (·.isIdentifier) .expressionExpected
      let span ← merge value.span member.span
      membersWithin n (.operation operator value (.factor member member.span) span)
    else return value

/-- Read an identifier, a literal or an expression in brackets. -/
def primaryWithin : Nat → Parser (Option Expression)
  | 0     => diverge
  | n + 1 => do
    let token ← current
    match token.kind with
    | .identifier _ | .number _ | .character _ =>
      advance
      return some (.factor token token.span)
    | .text _            =>
      advance
      return some (← textWithin n (.factor token token.span))
    | .symbol .openRound =>
      advance
      return some (← roundWithin n token.span)
    | .symbol .openCurly =>
      advance
      return some (← curlyWithin n token.span)
    | _                  => return none

/-- Read what is between round brackets and the closing one: nothing, which is the empty tuple, or
an expression, which takes over the span of the brackets. -/
def roundWithin : Nat → Span → Parser Expression
  | 0, _           => diverge
  | n + 1, opening => do
    let token ← current
    if ← consume .closeRound then
      return .tuple [] (← merge opening token.span)
    else
      let inner ← expect .expressionExpected (← expressionWithin n)
      let closing ← take (·.isSymbol .closeRound) (.unclosedBracket .closeRound opening)
      return inner.withSpan (← merge opening closing.span)

/-- Read the elements between curly brackets and the closing one. -/
def curlyWithin : Nat → Span → Parser Expression
  | 0, _           => diverge
  | n + 1, opening => do
    match ← binaryWithin n 0 with
    | some first =>
      let rest ← elementsWithin n
      let closing ← take (·.isSymbol .closeCurly) (.unclosedBracket .closeCurly opening)
      return .list (first :: rest) (← merge opening closing.span)
    | none       =>
      let closing ← take (·.isSymbol .closeCurly) .expressionExpected
      return .list [] (← merge opening closing.span)

/-- Read the interpolations that follow the first segment of a text literal. -/
def textWithin : Nat → Expression → Parser Expression
  | 0, _         => diverge
  | n + 1, first => do
    if (← current).kind.isSymbol .interpolationOpen then
      let rest ← segmentsWithin n
      return .interpolation (first :: rest) (← cover first rest)
    else return first

/-- Read expressions inside of a text literal, each with the segment behind it. -/
def segmentsWithin : Nat → Parser (List Expression)
  | 0     => diverge
  | n + 1 => do
    if ← consume .interpolationOpen then
      let value ← expect .expressionExpected (← expressionWithin n)
      let _ ← take (·.isSymbol .interpolationClose) .unterminatedInterpolation
      let text ← take (·.isText) .unterminatedInterpolation
      return value :: .factor text text.span :: (← segmentsWithin n)
    else return []

end

/-- Read an expression. -/
def expression : Parser (Option Expression) := repeated (expressionWithin fixities)

/-- Step past line breaks. -/
def lineBreaksWithin : Nat → Parser Unit
  | 0     => diverge
  | n + 1 => do
    if (← current).kind = .lineBreak then
      advance
      lineBreaksWithin n
    else return ()

/-- Read an expression, line breaks and the end of input. -/
def wholeExpression : Parser Expression := do
  let e ← expect .expressionExpected (← expression fixities)
  repeated lineBreaksWithin
  require ((← current).kind == .endOfInput) .terminatorExpected
  return e

end Parser

/-- The expression that tokens spell. -/
def parseExpression (tokens : List Token) (fixities : FixityTable) :
    Except ParseFailure Expression :=
  (Parser.wholeExpression fixities).run' tokens

end Frontend
