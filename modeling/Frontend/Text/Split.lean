/-!
# Splitting texts

A text is split into the pieces between the places where a separator stands. There is one piece
more than there are separators, and joining the pieces gives the text back. A text that has a given
beginning is split behind it.
-/

namespace Frontend.Text

/-! ### Beginnings -/

/-- The rest of a text behind a given beginning. -/
def after? : List Char → List Char → Option (List Char)
  | [], text          => some text
  | _ :: _, []        => none
  | b :: bs, c :: cs  => if b = c then after? bs cs else none

/-- A text has a rest behind a beginning if it is the beginning and the rest. -/
theorem after?_eq_some_iff {start text rest : List Char} :
    after? start text = some rest ↔ text = start ++ rest := by
  induction start generalizing text with
  | nil => simp [after?]
  | cons b bs ih =>
    cases text with
    | nil => simp [after?]
    | cons c cs =>
      by_cases h : b = c
      · subst h
        simp [after?, ih]
      · simp [after?, h, Ne.symm h]

/-! ### Separators of one character -/

/-- The pieces between the places of a character. -/
def splitChar (separator : Char) : List Char → List (List Char)
  | []      => [[]]
  | c :: cs =>
    if c = separator then [] :: splitChar separator cs
    else match splitChar separator cs with
      | []      => [[c]]
      | p :: ps => (c :: p) :: ps

theorem splitChar_ne_nil (separator : Char) (text : List Char) : splitChar separator text ≠ [] := by
  cases text with
  | nil => simp [splitChar]
  | cons c cs =>
    unfold splitChar
    split
    · simp
    · split <;> simp

/-- The pieces with the character between them are the text again. -/
theorem intercalate_splitChar (separator : Char) (text : List Char) :
    [separator].intercalate (splitChar separator text) = text := by
  induction text with
  | nil => rfl
  | cons c cs ih =>
    unfold splitChar
    split
    · next hc =>
      obtain ⟨p, ps, hp⟩ := List.exists_cons_of_ne_nil (splitChar_ne_nil separator cs)
      rw [hp] at ih ⊢
      rw [List.intercalate_cons_cons, ih, hc]
      rfl
    · split
      · next hp => exact absurd hp (splitChar_ne_nil separator cs)
      · next p ps hp =>
        rw [hp] at ih
        cases ps with
        | nil => simpa [List.intercalate] using ih
        | cons q qs =>
          rw [List.intercalate_cons_cons] at ih ⊢
          rw [← ih]
          rfl

/-! ### Other separators -/

/-- The pieces between the places of a separator, which is given by its first character and the
others. Of overlapping places the first counts. -/
def splitText (first : Char) (others : List Char) (text : List Char) : List (List Char) :=
  match text with
  | []      => [[]]
  | c :: cs =>
    if (first :: others).isPrefixOf (c :: cs) then
      [] :: splitText first others (cs.drop others.length)
    else match splitText first others cs with
      | []      => [[c]]
      | p :: ps => (c :: p) :: ps
termination_by text.length
decreasing_by
  · rw [List.length_drop, List.length_cons]
    omega
  · exact Nat.lt_succ_self _

/-! ### Lines -/

/-- A line without the carriage return that may end it. -/
def trimReturn (line : List Char) : List Char :=
  if line.getLast? = some '\r' then line.dropLast else line

/-- The lines of a text, each of which a line feed ends. A carriage return before the line feed is
not part of the line. The last line may lack its line feed. -/
def lines (text : List Char) : List (List Char) :=
  let pieces := splitChar '\n' text
  let last := pieces.getLast?.getD []
  pieces.dropLast.map trimReturn ++ (if last.isEmpty then [] else [last])

end Frontend.Text
