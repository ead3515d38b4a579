import Frontend.Token.Basic

/-!
# The parts that tokens play in expressions

A token before the end of an expression either becomes a part of the expression or is punctuation:
a bracket, a comma, the bracket of an interpolation or layout.
-/

namespace Frontend

/-- A symbol that is a word by itself is named by its character. -/
theorem Symbol.name_of_ofChar? {c : Char} {symbol : Symbol} (h : ofChar? c = some symbol) :
    symbol.name = String.ofList [c] := by
  rw [ofChar?] at h
  repeat' split at h
  all_goals first
    | next hc =>
      cases h
      rw [hc]
      rfl
    | cases h

theorem Symbol.eq_of_ofChar?_closeCurly {c : Char} (h : ofChar? c = some .closeCurly) :
    c = '\x7d' := by
  have hname := congrArg String.toList (name_of_ofChar? h)
  simpa [name] using hname.symm

/-- A reserved word or operator is named by its spelling. -/
theorem Symbol.name_of_ofWord? {word : String} {symbol : Symbol} (h : ofWord? word = some symbol) :
    symbol.name = word := by
  simpa using List.find?_some h

namespace TokenKind

variable {k : TokenKind}

/-! ### Kinds with a payload -/

theorem isSymbol_iff {s : Symbol} : k.isSymbol s ↔ k = .symbol s := by
  simp [isSymbol]

theorem isIdentifier_iff : k.isIdentifier ↔ ∃ name, k = .identifier name := by
  cases k <;> simp [isIdentifier]

theorem isOperator_iff : k.isOperator ↔ ∃ name, k = .operator name := by
  cases k <;> simp [isOperator]

theorem isText_iff : k.isText ↔ ∃ content, k = .text content := by
  cases k <;> simp [isText]

theorem isIndentation_iff : k.isIndentation ↔ ∃ blanks, k = .indentation blanks := by
  cases k <;> simp [isIndentation]

/-! ### Content and punctuation -/

/-- A token that becomes a part of an expression. -/
def isContent : TokenKind → Bool
  | identifier _ => true
  | number _     => true
  | character _  => true
  | text _       => true
  | operator _   => true
  | symbol s     => s == .dotAccess
  | _            => false

/-- A bracket of an expression. -/
def isBracket : TokenKind → Bool
  | symbol s => s == .openRound || s == .closeRound || s == .openCurly || s == .closeCurly
  | _        => false

/-- A token that an expression is written with and that does not become a part of it. -/
def isPunctuation : TokenKind → Bool
  | symbol s      => isBracket (symbol s) || s == .comma || s == .interpolationOpen ||
      s == .interpolationClose
  | lineBreak     => true
  | indentation _ => true
  | _             => false

theorem isPunctuation_of_isBracket (h : k.isBracket) : k.isPunctuation := by
  cases k with
  | symbol s => simp [isPunctuation, h]
  | _ => simp [isBracket] at h

theorem isContent_eq_false_of_isPunctuation (h : k.isPunctuation) : k.isContent = false := by
  cases k with
  | symbol s => cases s <;> first | rfl | exact absurd h (by decide)
  | lineBreak => rfl
  | indentation _ => rfl
  | _ => simp [isPunctuation] at h

end TokenKind

end Frontend
