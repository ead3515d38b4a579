import Frontend.Text.Width.Sequel

/-!
# Display width

The number of terminal columns a text takes up. It is the sum of the widths of the characters where
none of them combine: emoji of several characters take two columns, some letters are written as one,
and a variation selector changes the width of the symbol before it.
-/

namespace Frontend.Text

/-- What stands behind a place: a sequel, and before it the selectors that ask for the emoji form or
the text form of the character before the place. -/
structure Ahead where
  sequel : Sequel := .plain
  asksEmoji : Bool := false
  asksText : Bool := false
deriving DecidableEq, Repr

namespace Ahead

/-- A selector of the emoji form stands before what is ahead. -/
def selectEmoji (a : Ahead) : Ahead :=
  if a.sequel.passesSelectors || a.sequel.joinsForms then { a with asksEmoji := true }
  else { asksEmoji := true }

/-- A selector of the text form stands before what is ahead. -/
def selectText (a : Ahead) : Ahead :=
  if a.sequel.passesSelectors then { a with asksText := true } else { asksText := true }

/-- What is ahead without a selector that the character before it does not heed. -/
def deselectEmoji (a : Ahead) : Ahead :=
  if !a.asksEmoji then a
  else if a.sequel.passesSelectors then { a with asksEmoji := false }
  else { }

/-- What is ahead without a selector that the character before it does not heed. -/
def deselectText (a : Ahead) : Ahead :=
  if !a.asksText then a
  else if a.sequel.passesSelectors then { a with asksText := false }
  else { }

/-- The columns of a character before a sequel, and the sequel that it begins. -/
def addPlain (s : Sequel) (c : Char) : Int × Ahead :=
  if s.passesMarks && Sequel.isJoiner c then (0, { sequel := s.join })
  else if s.passesMarks && isIgnorableMark c then (0, { sequel := s })
  else match s.combine? c with
    | some (columns, sequel) => (columns, { sequel := sequel })
    | none                   => (charWidth c, { sequel := .ofChar c })

/-- The columns that a character adds, and what is ahead of the place before it. -/
def add (a : Ahead) (c : Char) : Int × Ahead :=
  if a.asksEmoji && hasEmojiForm c then
    (if a.sequel.joinsForms then 0 else 2, { sequel := .emoji })
  else
    let a := a.deselectEmoji
    if c.toNat == 0xFE0F then (0, a.selectEmoji)
    else if c.toNat == 0xFE0E then (0, a.selectText)
    else if a.asksText && hasTextForm c then (1, { })
    else addPlain a.deselectText.sequel c

end Ahead

/-- The columns of a text, and what stands ahead of the place before it. -/
def measure : List Char → Int × Ahead
  | []      => (0, { })
  | c :: cs =>
    let (total, ahead) := measure cs
    let (columns, ahead) := ahead.add c
    (total + columns, ahead)

/-- The number of columns of a text. A character never takes back more columns than the characters
behind it were counted with. -/
def width (text : List Char) : Nat := (measure text).1.toNat

end Frontend.Text
