/-!
# Numbers

A number is a sequence of decimal digits with at most one dot in it, and with a digit behind the
dot. It may start with the dot.
-/

namespace Frontend.Number

/-- What is wrong with a number, and the text up to the fault. -/
inductive Malformed where
  /-- No digit follows the dot that ends the text. -/
  | finalDot (text : List Char)
  /-- A second dot follows the text. -/
  | severalDots (text : List Char)
deriving DecidableEq, Repr

/-- Read the number that a text begins with. The text begins with a digit, or with a dot. -/
def read (ahead : List Char) : Except Malformed (List Char) :=
  let whole := ahead.takeWhile Char.isDigit
  match ahead.drop whole.length with
  | '.' :: rest =>
    let fraction := rest.takeWhile Char.isDigit
    if fraction.isEmpty then .error (.finalDot (whole ++ ['.']))
    else match rest.drop fraction.length with
      | '.' :: _ => .error (.severalDots (whole ++ '.' :: fraction))
      | _        => .ok (whole ++ '.' :: fraction)
  | _           => .ok whole

end Frontend.Number
