import Frontend.Source.Span

/-!
# Lexical faults

Reading tokens stops at the first fault. `LexicalFault` is its cause and `LexicalError` the cause
with the place that it is at.
-/

namespace Frontend

/-- Why a source text cannot be cut into tokens. -/
inductive LexicalFault where
  /-- A text literal is not closed on its line; at its opening quote. -/
  | unterminatedText
  /-- A character literal does not hold exactly one character; at its opening quote. -/
  | unterminatedCharacter
  /-- A number ends in a dot; directly behind the dot. -/
  | finalDot
  /-- A number has more than one dot; at the second one. -/
  | severalDots
  /-- A block comment is not closed; at its opening. -/
  | unterminatedComment
  /-- A character is not allowed in source texts. -/
  | illegalCharacter (c : Char)
deriving DecidableEq, Repr

/-- A fault and its place. -/
abbrev LexicalError := Located LexicalFault

namespace LexicalFault

/-- The code point of a character in at least four hexadecimal digits, in capitals. -/
private def codePoint (c : Char) : String :=
  let digits := (Nat.toDigits 16 c.toNat).map Char.toUpper
  String.ofList (List.replicate (4 - digits.length) '0' ++ digits)

/-- The wording of a fault. -/
def message : LexicalFault → String
  | unterminatedText      => "unterminated text literal"
  | unterminatedCharacter => "unterminated character literal"
  | finalDot              => "number literal ends in a dot"
  | severalDots           => "number literal contains several dots"
  | unterminatedComment   => "unterminated block comment"
  | illegalCharacter c    => "found illegal character U+" ++ codePoint c

end LexicalFault

end Frontend
