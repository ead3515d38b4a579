import Frontend.Token.Basic

/-!
# Token streams

Tokens are read one by one, with a look at the next two. The end of input is never passed. In a
stream without an end of input the last token is seen again and again behind the end.
-/

namespace Frontend

/-- The tokens that are still to be read. -/
structure TokenStream where
  ahead : List Token
  /-- The token that is seen behind the end. -/
  last : Token
deriving DecidableEq, Repr

namespace TokenStream

/-- The stream of all given tokens. -/
def ofList (tokens : List Token) : TokenStream :=
  ⟨tokens, tokens.getLast?.getD .endOfNothing⟩

/-- The token the given number of places ahead. -/
def peek (s : TokenStream) (n : Nat) : Token := (s.ahead[n]?).getD s.last

/-- The current token. -/
def current (s : TokenStream) : Token := s.peek 0

/-- Step to the next token, but not past the end of input. -/
def advance (s : TokenStream) : TokenStream :=
  match s.ahead with
  | []        => s
  | t :: rest => if t.kind = .endOfInput then s else { s with ahead := rest }

/-- The line goes on: a line break, an indentation and a token that satisfies the predicate. -/
def continues (s : TokenStream) (p : TokenKind → Bool) : Bool :=
  s.current.kind == .lineBreak && (s.peek 1).kind.isIndentation && !(s.peek 2).kind.isBlank &&
    p (s.peek 2).kind

/-- Step past the line break and the indentation if the line goes on. -/
def skipContinuation (s : TokenStream) (p : TokenKind → Bool) : TokenStream :=
  if s.continues p then s.advance.advance else s

/-- A number of steps that no reading of the stream exceeds, unless it goes on for ever. -/
def fuel (s : TokenStream) : Nat := 16 * (s.ahead.length + 1)

/-! ### Stepping -/

theorem length_advance_le (s : TokenStream) : s.advance.ahead.length ≤ s.ahead.length := by
  unfold advance
  split
  · exact Nat.le_refl _
  · next h =>
    split
    · exact Nat.le_refl _
    · simp [h]

@[simp] theorem last_advance (s : TokenStream) : s.advance.last = s.last := by
  unfold advance
  split
  · rfl
  · split <;> rfl

end TokenStream

end Frontend
