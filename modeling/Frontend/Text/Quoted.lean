import Frontend.Text.Extending
import Frontend.Text.WordClass

/-!
# Quoted and escaped text

Text is quoted in two ways. `Text.cite` puts it between directional quotation marks as it is, for
messages to readers. `Text.quoted` puts it between straight ones in an exact form, in which
every character that cannot be seen is written as an escape sequence.
-/

namespace Frontend.Text

/-- The text between directional quotation marks. -/
def cite (text : String) : String := "‘" ++ text ++ "’"

/-- A character that is seen as itself: not a control, format or private character, not an
unassigned one, not a blank other than the space, and not one that attaches to its neighbour. -/
def isPrintable (c : Char) : Bool :=
  match WordClass.of? c with
  | some .alphanumeric | some .symbolic => !isExtending c
  | _                                   => c == ' '

/-- The escape sequence with the hexadecimal code point of a character. -/
def codePointEscape (c : Char) : List Char :=
  ['\\', 'u', '\x7b'] ++ Nat.toDigits 16 c.toNat ++ ['\x7d']

/-- The form of a character in which quotation marks, the backslash and everything that cannot be
seen are escaped. -/
def escapeChar (c : Char) : List Char :=
  if c = '\x00' then ['\\', '0']
  else if c = '\t' then ['\\', 't']
  else if c = '\r' then ['\\', 'r']
  else if c = '\n' then ['\\', 'n']
  else if c = '"' ∨ c = '\'' ∨ c = '\\' then ['\\', c]
  else if isPrintable c then [c]
  else codePointEscape c

/-- The text between straight double quotes, with everything escaped but the apostrophe. -/
def quoted (text : String) : String :=
  String.ofList
    (['"'] ++ text.toList.flatMap (fun c => if c = '\'' then [c] else escapeChar c) ++ ['"'])

end Frontend.Text
