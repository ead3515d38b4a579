import Frontend.Source.Position

/-!
# Cursors

A cursor is a position in a source text together with the text ahead of it. It only moves
forward; earlier cursors stay what they are, and the text between two cursors over one source is
`Cursor.slice`.
-/

namespace Frontend

/-- A place in a source text and the text that is still to be read. -/
structure Cursor where
  position : Position
  ahead : List Char
deriving DecidableEq, Repr

namespace Cursor

/-- The cursor before the first character of a text. -/
def ofText (text : List Char) : Cursor := ⟨.origin, text⟩

/-- There is text left to read. -/
def inRange (c : Cursor) : Bool := !c.ahead.isEmpty

/-- The current character. -/
def peek (c : Cursor) : Option Char := c.ahead[0]?

/-- The character behind the current one. -/
def peekNext (c : Cursor) : Option Char := c.ahead[1]?

/-- Step past the current character, if there is one. -/
def advance (c : Cursor) : Cursor :=
  match c.ahead with
  | []        => c
  | x :: rest => ⟨c.position.next x, rest⟩

/-- Step past the given number of characters, at most to the end of the text. -/
def advanceBy (c : Cursor) : Nat → Cursor
  | 0     => c
  | n + 1 => c.advance.advanceBy n

/-- Step past a stretch of text that lies directly ahead. -/
def pass (c : Cursor) (text : List Char) : Cursor :=
  ⟨c.position.after text, c.ahead.drop text.length⟩

/-- The text between an earlier cursor and this one over the same source. -/
def slice (c : Cursor) (earlier : Cursor) : List Char :=
  earlier.ahead.take (earlier.ahead.length - c.ahead.length)

/-! ### Passing text -/

@[simp] theorem pass_position (c : Cursor) (text : List Char) :
    (c.pass text).position = c.position.after text := rfl

theorem pass_ahead {c : Cursor} {text rest : List Char} (h : c.ahead = text ++ rest) :
    (c.pass text).ahead = rest := by
  simp [pass, h]

/-- What lies between a cursor and the same cursor after passing a text is that text. -/
theorem slice_pass {c : Cursor} {text rest : List Char} (h : c.ahead = text ++ rest) :
    (c.pass text).slice c = text := by
  simp [slice, pass, h]

end Cursor

end Frontend
