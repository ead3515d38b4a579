import Frontend.Text.Split

/-!
# Runs of names

The names of neighbouring characters often begin with the same words. A run holds these words once,
and the endings of the names in the order of the code points.
-/

namespace Frontend.CharacterName

/-- The names of neighbouring characters. The endings are separated by semicolons; an empty one
stands for a code point without a name. -/
structure Run where
  /-- The first code point. -/
  first : Nat
  /-- The words that all the names begin with. -/
  opening : String
  /-- The endings of the names, several in a text. -/
  endings : List String

namespace Run

/-- The number of endings before a given one. -/
private def position? (ending : List Char) : List String → Option Nat
  | []            => none
  | text :: texts =>
    let endings := Text.splitChar ';' text.toList
    match endings.findIdx? (· == ending) with
    | some n => some n
    | none   => (position? ending texts).map (endings.length + ·)

/-- The character of a name in the run. -/
def find? (run : Run) (name : List Char) : Option Char :=
  match Text.after? run.opening.toList name with
  | none        => none
  | some ending =>
    if ending.isEmpty then none
    else (position? ending run.endings).map fun n => Char.ofNat (run.first + n)

end Run

end Frontend.CharacterName
