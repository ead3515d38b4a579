import Frontend.Grammar.Fault
import Frontend.Grammar.Stream

/-!
# Parsers

A parser reads from a stream of tokens. It answers with a value, or with a failure; in both cases
it also says which tokens are left. No parser goes back.
-/

namespace Frontend

/-- Why a parser gives no value. -/
inductive ParseFailure where
  /-- A token does not fit. -/
  | error (e : SyntaxError)
  /-- The tokens are not in the order of the source text. -/
  | disorder (d : Span.Disorder)
  /-- There is no end of input, and the last token goes on fitting behind the end. -/
  | endless
deriving DecidableEq, Repr

/-- Read a value from a stream of tokens. -/
abbrev Parser (α : Type) := EStateM ParseFailure TokenStream α

namespace Parser

/-- The value that a parser reads from tokens, or its failure. -/
def run' {α : Type} (p : Parser α) (tokens : List Token) : Except ParseFailure α :=
  match p (.ofList tokens) with
  | .ok a _    => .ok a
  | .error e _ => .error e

/-- Something is wrong at the current token. -/
def fail {α : Type} (fault : SyntaxFault) : Parser α :=
  fun s => .error (.error ⟨fault, s.current⟩) s

/-- The reading goes on for ever. -/
def diverge {α : Type} : Parser α := fun s => .error .endless s

/-- A parser that repeats itself, with enough steps for the tokens that are left. -/
def repeated {α : Type} (p : Nat → Parser α) : Parser α := fun s => p s.fuel s

/-- The current token. -/
def current : Parser Token := fun s => .ok s.current s

/-- The token the given number of places ahead. -/
def peek (n : Nat) : Parser Token := fun s => .ok (s.peek n) s

/-- Step to the next token. -/
def advance : Parser Unit := fun s => .ok () s.advance

/-- Step past the current token if it is the given symbol, and tell whether it is. -/
def consume (symbol : Symbol) : Parser Bool := fun s =>
  if s.current.kind.isSymbol symbol then .ok true s.advance else .ok false s

/-- Step past the current token if its kind satisfies the predicate, or a fault at it. -/
def take (p : TokenKind → Bool) (fault : SyntaxFault) : Parser Token := fun s =>
  if p s.current.kind then .ok s.current s.advance else .error (.error ⟨fault, s.current⟩) s

/-- A condition that has to hold, or a fault at the current token. -/
def require (condition : Bool) (fault : SyntaxFault) : Parser Unit := fun s =>
  if condition then .ok () s else .error (.error ⟨fault, s.current⟩) s

/-- Step past a line break and an indentation if the line goes on with a token that satisfies the
predicate. -/
def skipContinuation (p : TokenKind → Bool) : Parser Unit := fun s => .ok () (s.skipContinuation p)

/-- The value that is there, or a fault at the current token. -/
def expect {α : Type} (fault : SyntaxFault) : Option α → Parser α
  | some a => pure a
  | none   => fail fault

/-- The span from the start of one span to the end of another. -/
def merge (s t : Span) : Parser Span := fun stream =>
  match s.merge (some t) with
  | .ok u    => .ok u stream
  | .error d => .error (.disorder d) stream

end Parser

end Frontend
