import Frontend.Token.CharacterName

/-!
# Escape sequences

An escape sequence is a backslash and what follows it inside of a literal. It stands for one
character, or, if it is malformed or unknown, for itself as it is written: `Escape.content` is
one or the other.
-/

namespace Frontend

/-- What follows a backslash and belongs to it, and the character that it stands for, unless it is
kept as it is written. -/
structure Escape where
  text : List Char
  value? : Option Char
deriving DecidableEq, Repr

namespace Escape

/-- What a literal holds in the place of the sequence. -/
def content (e : Escape) : List Char :=
  match e.value? with
  | some c => [c]
  | none   => '\\' :: e.text

/-! ### The forms of a sequence -/

/-- The sequences of a single character. -/
def simple? (c : Char) : Option Char :=
  match c with
  | 'a'  => some '\x07'
  | 'b'  => some '\x08'
  | 'e'  => some '\x1b'
  | 'f'  => some '\x0c'
  | 'n'  => some '\n'
  | 'r'  => some '\r'
  | 's'  => some ' '
  | 't'  => some '\t'
  | 'v'  => some '\x0b'
  | '$'  => some '$'
  | '\\' => some '\\'
  | '\'' => some '\''
  | '"'  => some '"'
  | _    => none

/-- The value of a digit of a base up to sixteen. -/
def digitValue (c : Char) : Nat :=
  if c.isDigit then c.toNat - '0'.toNat
  else if 'a' ≤ c ∧ c ≤ 'f' then c.toNat - 'a'.toNat + 10
  else c.toNat - 'A'.toNat + 10

/-- A hexadecimal digit. -/
def isHexDigit (c : Char) : Bool :=
  c.isDigit || ('a' ≤ c && c ≤ 'f') || ('A' ≤ c && c ≤ 'F')

/-- An octal digit. -/
def isOctalDigit (c : Char) : Bool := '0' ≤ c && c ≤ '7'

/-- The number that digits of a base spell. -/
def ofDigits (base : Nat) (digits : List Char) : Nat :=
  digits.foldl (fun n d => base * n + digitValue d) 0

/-- The character of a code point, which must not be a surrogate or out of range. -/
def scalar? (n : Nat) : Option Char := if n.isValidChar then some (Char.ofNat n) else none

/-- A marker and exactly `size` hexadecimal digits. -/
def readHex (marker : Char) (size : Nat) (rest : List Char) : Escape :=
  let digits := (rest.take size).takeWhile isHexDigit
  ⟨marker :: digits, if digits.length = size then scalar? (ofDigits 16 digits) else none⟩

/-- One to three octal digits. -/
def readOctal (rest : List Char) : Escape :=
  let digits := (rest.take 3).takeWhile isOctalDigit
  ⟨digits, scalar? (ofDigits 8 digits)⟩

/-- A character that may be part of the name of a character. -/
def isNameChar (c : Char) : Bool := c != '\x7d' && c != '"' && c != '\'' && c != '\n'

/-- The marker of a named character and its name in curly brackets. Without the brackets only the
marker belongs to the sequence. -/
def readNamed (named? : String → Option Char) (rest : List Char) : Escape :=
  match rest with
  | '\x7b' :: more =>
    let name := more.takeWhile isNameChar
    match more.drop name.length with
    | '\x7d' :: _ => ⟨'N' :: '\x7b' :: name ++ ['\x7d'], named? (String.ofList name)⟩
    | _           => ⟨['N'], none⟩
  | _              => ⟨['N'], none⟩

/-- Read the sequence of a backslash that the given text follows. The names of characters are
looked up with `named?`. A line feed never belongs to a sequence. -/
def read (named? : String → Option Char) (ahead : List Char) : Escape :=
  match ahead with
  | []        => ⟨[], none⟩
  | c :: rest =>
    match simple? c with
    | some v => ⟨[c], some v⟩
    | none   =>
      if c = 'N' then readNamed named? rest
      else if c = 'x' then readHex c 2 rest
      else if c = 'u' then readHex c 4 rest
      else if c = 'U' then readHex c 8 rest
      else if isOctalDigit c then readOctal (c :: rest)
      else if c = '\n' then ⟨[], none⟩
      else ⟨[c], none⟩

end Escape

end Frontend
