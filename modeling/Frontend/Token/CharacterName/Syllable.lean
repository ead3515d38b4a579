import Frontend.Text.Split

/-!
# Names of Hangul syllables

A syllable of Hangul is named by its consonants and its vowel. The code points of the syllables
follow from the places of these letters in their alphabetic order.
-/

namespace Frontend.CharacterName

/-- The consonants before the vowel, in the order of the code points. -/
private def leads : List String :=
  ["G", "GG", "N", "D", "DD", "R", "M", "B", "BB", "S", "SS", "", "J", "JJ", "C", "K", "T", "P",
   "H"]

/-- The vowels, in the order of the code points. -/
private def vowels : List String :=
  ["A", "AE", "YA", "YAE", "EO", "E", "YEO", "YE", "O", "WA", "WAE", "OE", "YO", "U", "WEO", "WE",
   "WI", "YU", "EU", "YI", "I"]

/-- The consonants after the vowel, in the order of the code points. -/
private def tails : List String :=
  ["", "G", "GG", "GS", "N", "NJ", "NH", "D", "L", "LG", "LM", "LB", "LS", "LT", "LP", "LH", "M",
   "B", "BS", "S", "SS", "NG", "J", "C", "K", "T", "P", "H"]

/-- The index of the longest part that a text begins with, and the rest of the text. -/
private def longestPart (parts : List String) (text : List Char) : Option (Nat × List Char) :=
  [3, 2, 1, 0].findSome? fun size =>
    (parts.findIdx? (·.toList == text.take size)).map fun i => (i, text.drop size)

/-- The syllable of some letters. -/
private def ofLetters? (letters : List Char) : Option Char := do
  let (lead, rest) ← longestPart leads letters
  let (vowel, rest) ← longestPart vowels rest
  let (tail, rest) ← longestPart tails rest
  if rest.isEmpty then some (Char.ofNat (0xAC00 + (lead * 21 + vowel) * 28 + tail)) else none

/-- The syllable of a name. -/
def syllable? (name : List Char) : Option Char :=
  (Text.after? "HANGUL SYLLABLE ".toList name).bind ofLetters?

end Frontend.CharacterName
