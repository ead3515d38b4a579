import Frontend.Text.Emoji
import Frontend.Text.Joining
import Frontend.Text.Width.Character

/-!
# Characters that share columns

A text is measured from its end to its beginning. What stands behind a character may change the
number of columns that it adds: the parts of an emoji share two columns, and letters that are
written as one share a column. A `Sequel` is what has to be known of the characters behind a place
for this, and `Sequel.combine?` adds a character before it.
-/

namespace Frontend.Text

/-- How the characters behind a place begin, as far as a character before them may combine with
them. -/
inductive Sequel where
  /-- Nothing that combines. -/
  | plain
  /-- A line feed. -/
  | lineFeed
  /-- A pictograph. -/
  | emoji
  /-- A skin tone. -/
  | skinTone
  /-- A regional indicator. -/
  | indicator
  /-- Several regional indicators. -/
  | indicators
  /-- A joiner and a pictograph. -/
  | joinedEmoji
  /-- A keycap before a joiner and a pictograph. -/
  | joinedKeycap
  /-- A regional indicator before a joiner and a pictograph. -/
  | joinedIndicator
  /-- An even number of regional indicators before a joiner and a pictograph. -/
  | joinedEvenIndicators
  /-- An odd number of at least three regional indicators before a joiner and a pictograph. -/
  | joinedOddIndicators
  /-- The end of a tag before a joiner and a pictograph: some letters, some digits, and the mark
  that ends the tag. -/
  | joinedTag (letters digits : Nat)
  /-- An Arabic letter in the shape of alef. -/
  | alef
  /-- The Hebrew letter lamed, behind a joiner or not. -/
  | lamed (joined : Bool)
  /-- The Buginese letter ya, behind a joiner or not. -/
  | ya (joined : Bool)
  /-- The Buginese vowel sign i, a joiner and the letter ya. -/
  | vowelYa
  /-- A Tifinagh consonant, behind a joiner or not. -/
  | consonant (joined : Bool)
  /-- The joiner of consonants and a Tifinagh consonant. -/
  | joinerConsonant
  /-- A second tone letter of Lisu. -/
  | toneLetter
  /-- The Old Turkic letter orkhon i, behind a joiner or not. -/
  | orkhonI (joined : Bool)
  /-- A Khmer letter that has a subscript form. -/
  | subscript
  /-- The Kirat Rai vowel sign e. -/
  | vowelE
  /-- The Kirat Rai vowel sign ai, in one character or two. -/
  | vowelAi
deriving DecidableEq, Repr

namespace Sequel

/-- The zero width joiner. -/
def isJoiner (c : Char) : Bool := c.toNat == 0x200D

/-- The sequel that a character begins by itself. -/
def ofChar (c : Char) : Sequel :=
  if c == '\n' then .lineFeed
  else if isPictograph c then .emoji
  else if isSkinTone c then .skinTone
  else if isRegionalIndicator c then .indicator
  else if isAlef c then .alef
  else if hasSubscript c then .subscript
  else if isTifinaghConsonant c then .consonant false
  else match c.toNat with
    | 0x5DC            => .lamed false
    | 0x1A10           => .ya false
    | 0xA4FC | 0xA4FD  => .toneLetter
    | 0x10C03          => .orkhonI false
    | 0x16D67          => .vowelE
    | 0x16D68          => .vowelAi
    | _                => .plain

/-! ### Characters that do not separate -/

/-- Variation selectors before the sequel are passed over: it is a part of a ligature. -/
def passesSelectors : Sequel → Bool
  | .alef | .lamed _ | .ya _ | .vowelYa | .consonant _ | .joinerConsonant | .toneLetter
  | .orkhonI _ | .subscript => true
  | _ => false

/-- Joiners and ignorable marks before the sequel are passed over. The Arabic ligature has rules of
its own. -/
def passesMarks (s : Sequel) : Bool := s.passesSelectors && s != .alef

/-- The sequel behind a joiner that is passed over. -/
def join : Sequel → Sequel
  | .lamed _     => .lamed true
  | .ya _        => .ya true
  | .consonant _ => .consonant true
  | .orkhonI _   => .orkhonI true
  | s            => s

/-- The emoji form may be asked for before a joiner, too. -/
def joinsForms : Sequel → Bool
  | .joinedEmoji | .joinedKeycap => true
  | _ => false

/-! ### Combinations -/

/-- Regional indicators go in pairs. -/
private def combineIndicators (pairs : Sequel) (columns : Int) (c : Char) :
    Option (Int × Sequel) :=
  if isRegionalIndicator c then some (columns, pairs)
  else if isJoiner c then some (0, .joinedEmoji)
  else none

/-- A character before a joiner and a pictograph. -/
private def combineJoined (c : Char) : Option (Int × Sequel) :=
  if c.toNat == 0x20E3 then some (0, .joinedKeycap)
  else if isRegionalIndicator c then some (1, .joinedIndicator)
  else if isSkinTone c then some (0, .skinTone)
  else if c.toNat == 0xE007F then some (0, .joinedTag 0 0)
  else if isPictograph c then some (0, .emoji)
  else none

/-- A character before the end of a tag. Up to six letters and, before at most four letters, up to
three digits are read. The tag belongs to a black flag. -/
private def combineTag (letters digits : Nat) (c : Char) : Option (Int × Sequel) :=
  if 0xE0061 ≤ c.toNat && c.toNat ≤ 0xE007A && digits == 0 && letters < 6 then
    some (0, .joinedTag (letters + 1) 0)
  else if 0xE0030 ≤ c.toNat && c.toNat ≤ 0xE0039 && letters ≤ 4 && digits < 3 then
    some (0, .joinedTag letters (digits + 1))
  else if c.toNat == 0x1F3F4 && (digits == 3 || (digits == 0 && 3 ≤ letters)) then
    some (0, .emoji)
  else none

/-- The columns that a character adds if it combines with the sequel, and the sequel that both make.
A negative number takes columns back that the sequel was counted with. -/
def combine? (s : Sequel) (c : Char) : Option (Int × Sequel) :=
  match s with
  | .plain => none
  | .lineFeed => if c == '\r' then some (0, .plain) else none
  | .emoji => if isJoiner c then some (0, .joinedEmoji) else none
  | .skinTone =>
    if isToneable c then some (0, .emoji)
    else if isJoiner c then some (0, .joinedEmoji)
    else none
  | .indicator => if isRegionalIndicator c then some (1, .indicators) else none
  | .indicators => combineIndicators .indicators 1 c
  | .joinedEmoji => combineJoined c
  | .joinedKeycap => none
  | .joinedIndicator => if isRegionalIndicator c then some (-1, .joinedEvenIndicators) else none
  | .joinedEvenIndicators => combineIndicators .joinedOddIndicators 3 c
  | .joinedOddIndicators => combineIndicators .joinedEvenIndicators (-1) c
  | .joinedTag letters digits => combineTag letters digits c
  | .alef =>
    if isLam c then some (0, .plain)
    else if isTransparent c then some (0, .alef)
    else none
  | .lamed joined => if joined && c.toNat == 0x5D0 then some (0, .plain) else none
  | .ya joined => if joined && c.toNat == 0x1A17 then some (0, .vowelYa) else none
  | .vowelYa => if c.toNat == 0x1A15 then some (0, .plain) else none
  | .consonant joined =>
    if c.toNat == 0x2D7F then some (1, .joinerConsonant)
    else if joined && isTifinaghConsonant c then some (0, .plain)
    else none
  | .joinerConsonant => if isTifinaghConsonant c then some (-1, .plain) else none
  | .toneLetter => if 0xA4F8 ≤ c.toNat && c.toNat ≤ 0xA4FB then some (0, .plain) else none
  | .orkhonI joined => if joined && c.toNat == 0x10C32 then some (0, .plain) else none
  | .subscript => if c.toNat == 0x17D2 then some (-1, .plain) else none
  | .vowelE =>
    match c.toNat with
    | 0x16D63 | 0x16D69 => some (0, .plain)
    | 0x16D67           => some (0, .vowelAi)
    | 0x16D68           => some (1, .vowelE)
    | _                 => none
  | .vowelAi => if c.toNat == 0x16D63 then some (0, .plain) else none

end Sequel

end Frontend.Text
