/-!
# Positions

A position in a source text counts the bytes, the lines and the characters of the current line
that lie before it. Positions are reached by reading characters: `Position.after` is the position
behind a stretch of text, and every position of a source text is the one after some initial part
of it.
-/

namespace Frontend

/-- A place between two characters of a source text. -/
structure Position where
  /-- The number of UTF-8 bytes before the place. -/
  offset : Nat
  /-- The number of line feeds before the place. -/
  line : Nat
  /-- The number of characters between the start of the line and the place. -/
  column : Nat
deriving DecidableEq, Inhabited, Repr

namespace Position

/-- The place before the first character. -/
def origin : Position := ⟨0, 0, 0⟩

/-! ### Reading -/

/-- The place behind one more character. -/
def next (p : Position) (c : Char) : Position :=
  if c = '\n' then ⟨p.offset + c.utf8Size, p.line + 1, 0⟩
  else ⟨p.offset + c.utf8Size, p.line, p.column + 1⟩

/-- The place behind a stretch of text. -/
def after (p : Position) (text : List Char) : Position := text.foldl next p

@[simp] theorem after_nil (p : Position) : p.after [] = p := rfl

@[simp] theorem after_cons (p : Position) (c : Char) (text : List Char) :
    p.after (c :: text) = (p.next c).after text := rfl

theorem after_append (p : Position) (s t : List Char) :
    p.after (s ++ t) = (p.after s).after t := by
  simp [after]

/-! ### Order -/

/-- Positions are ordered by offset, then by line, then by column. -/
instance : Ord Position where
  compare := compareLex (compareOn offset) (compareLex (compareOn line) (compareOn column))

instance : LE Position where
  le p q := p.offset < q.offset ∨ p.offset = q.offset ∧
    (p.line < q.line ∨ p.line = q.line ∧ p.column ≤ q.column)

instance : DecidableLE Position := fun p q =>
  inferInstanceAs (Decidable (p.offset < q.offset ∨ p.offset = q.offset ∧
    (p.line < q.line ∨ p.line = q.line ∧ p.column ≤ q.column)))

theorem le_refl (p : Position) : p ≤ p := Or.inr ⟨rfl, Or.inr ⟨rfl, Nat.le_refl _⟩⟩

/-- Reading moves strictly forward. -/
theorem offset_lt_next (p : Position) (c : Char) : p.offset < (p.next c).offset := by
  have := c.utf8Size_pos
  unfold next
  split <;> simp <;> omega

/-! ### Text -/

/-- The exact form `offset@line:column`, all counted from zero. -/
def inspect (p : Position) : String :=
  toString p.offset ++ "@" ++ toString p.line ++ ":" ++ toString p.column

/-- The form `line:column` for readers, both counted from one. -/
def display (p : Position) : String :=
  toString (p.line + 1) ++ ":" ++ toString (p.column + 1)

end Position

end Frontend
