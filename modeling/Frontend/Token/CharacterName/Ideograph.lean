import Frontend.Text.CodeRanges
import Frontend.Text.Split

/-!
# Names of unified ideographs

A unified ideograph is named by its code point, in at most five hexadecimal digits.
-/

namespace Frontend.CharacterName

/-- The code points of the unified ideographs. -/
private def ideographRanges : Text.CodeRanges :=
  [(0x3400, 0x4DBF), (0x4E00, 0x9FFF), (0x20000, 0x2A6DF), (0x2A700, 0x2B739), (0x2B740, 0x2B81D),
   (0x2B820, 0x2CEA1), (0x2CEB0, 0x2EBE0), (0x2EBF0, 0x2EE5D), (0x30000, 0x3134A),
   (0x31350, 0x323AF)]

/-- The value of a hexadecimal digit in capitals. -/
private def digitValue? (c : Char) : Option Nat :=
  if c.isDigit then some (c.toNat - '0'.toNat)
  else if 'A' ≤ c && c ≤ 'F' then some (c.toNat - 'A'.toNat + 10)
  else none

/-- The ideograph of the digits of a code point. -/
private def ofDigits? (digits : List Char) : Option Char := do
  let values ← digits.mapM digitValue?
  let n := values.foldl (fun n d => 16 * n + d) 0
  if digits.length ≤ 5 && ideographRanges.contains n then some (Char.ofNat n) else none

/-- The ideograph of a name. -/
def ideograph? (name : List Char) : Option Char :=
  (Text.after? "CJK UNIFIED IDEOGRAPH-".toList name).bind ofDigits?

end Frontend.CharacterName
