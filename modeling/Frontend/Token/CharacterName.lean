import Frontend.Token.CharacterName.African
import Frontend.Token.CharacterName.Alias
import Frontend.Token.CharacterName.American
import Frontend.Token.CharacterName.CentralAsian
import Frontend.Token.CharacterName.Cuneiform
import Frontend.Token.CharacterName.EastAsian
import Frontend.Token.CharacterName.European
import Frontend.Token.CharacterName.Graphic
import Frontend.Token.CharacterName.Hieroglyphic
import Frontend.Token.CharacterName.Ideograph
import Frontend.Token.CharacterName.Latin
import Frontend.Token.CharacterName.Mathematical
import Frontend.Token.CharacterName.MiddleEastern
import Frontend.Token.CharacterName.Notational
import Frontend.Token.CharacterName.Pictographic
import Frontend.Token.CharacterName.Punctuation
import Frontend.Token.CharacterName.Series
import Frontend.Token.CharacterName.SouthAsian
import Frontend.Token.CharacterName.SoutheastAsian
import Frontend.Token.CharacterName.Syllable

/-!
# Names of characters

The names of the characters of Unicode 16, read without regard to the case of ASCII letters; no
other difference in spelling is forgiven. Hangul syllables, unified ideographs and the characters of
a series are named by rule, and the names of all others are listed. The ideographs of Tangut have
no names here.
-/

namespace Frontend.CharacterName

/-- The listed names. Common letters and symbols come first. -/
private def listed : List (List Run) :=
  [latin, european, punctuation, mathematical, graphic, pictographic, eastAsian, middleEastern,
   southAsian, southeastAsian, centralAsian, african, american, cuneiform, hieroglyphic,
   notational]

/-- The character of a listed name. -/
private def listed? (name : List Char) : Option Char :=
  listed.findSome? (·.findSome? (·.find? name))

/-- The character of a given name. No two characters share a name, so that the order in which the
kinds of names are tried does not matter. -/
def find? (name : String) : Option Char :=
  let name := name.toList.map Char.toUpper
  listed? name <|> alias? name <|> Series.all.findSome? (·.find? name) <|> syllable? name <|>
    ideograph? name

end Frontend.CharacterName
