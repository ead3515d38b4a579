import Frontend.Text.Split

/-!
# Series of names

The names of the characters of a series differ in a label alone, which follows from the code point:
the code point itself in hexadecimal digits, the number of the character within the series, or the
dots of a Braille cell.
-/

namespace Frontend.CharacterName

/-- Neighbouring characters whose names consist of the same words and of a label. -/
structure Series where
  /-- The words that all the names begin with. -/
  opening : String
  /-- The first code point. -/
  first : Nat
  /-- The number of characters. -/
  size : Nat
  /-- The label of a code point. -/
  label : Nat → List Char

namespace Series

/-- The character of a name in the series. -/
def find? (series : Series) (name : List Char) : Option Char :=
  match Text.after? series.opening.toList name with
  | none       => none
  | some label =>
    ((List.range' series.first series.size).find? (series.label · == label)).map Char.ofNat

/-! ### Labels -/

/-- The hexadecimal digits of a code point, in capitals. -/
def codePoint (n : Nat) : List Char := (Nat.toDigits 16 n).map Char.toUpper

/-- The number of a code point if those from `base` on are counted from one. -/
def ordinal (base n : Nat) : List Char := Nat.toDigits 10 (n - base + 1)

/-- The number of a code point in three digits at least. -/
def paddedOrdinal (base n : Nat) : List Char :=
  let digits := ordinal base n
  List.replicate (3 - digits.length) '0' ++ digits

/-- The dots of a Braille cell. Each bit of the code point from the blank cell on stands for one of
the eight dots. -/
def dots (n : Nat) : List Char :=
  ((List.range 8).filter ((n - 0x2800).testBit ·)).map fun dot => Nat.digitChar (dot + 1)

/-! ### The series -/

/-- All series. Variation selectors have short names besides the long ones. They come in two blocks,
the second of which goes on with the count of the first. -/
def all : List Series := [
  ⟨"BRAILLE PATTERN DOTS-", 0x2801, 255, dots⟩,
  ⟨"CJK COMPATIBILITY IDEOGRAPH-", 0xF900, 366, codePoint⟩,
  ⟨"CJK COMPATIBILITY IDEOGRAPH-", 0xFA70, 106, codePoint⟩,
  ⟨"CJK COMPATIBILITY IDEOGRAPH-", 0x2F800, 542, codePoint⟩,
  ⟨"EGYPTIAN HIEROGLYPH-", 0x13460, 3995, codePoint⟩,
  ⟨"KHITAN SMALL SCRIPT CHARACTER-", 0x18B00, 470, codePoint⟩,
  ⟨"KHITAN SMALL SCRIPT CHARACTER-", 0x18CFF, 1, codePoint⟩,
  ⟨"NUSHU CHARACTER-", 0x1B170, 396, codePoint⟩,
  ⟨"TANGUT COMPONENT-", 0x18800, 768, paddedOrdinal 0x18800⟩,
  ⟨"VARIATION SELECTOR-", 0xFE00, 16, ordinal 0xFE00⟩,
  ⟨"VARIATION SELECTOR-", 0xE0100, 240, ordinal 0xE00F0⟩,
  ⟨"VS", 0xFE00, 16, ordinal 0xFE00⟩,
  ⟨"VS", 0xE0100, 240, ordinal 0xE00F0⟩
]

end Series

end Frontend.CharacterName
