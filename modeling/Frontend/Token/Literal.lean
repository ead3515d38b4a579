import Frontend.Token.Escape

/-!
# Literals

A text literal is read in segments: each ends at the closing quote, at the start of an
interpolation, or, if it is not closed, at the end of its line. A character literal holds one
character or escape sequence.
-/

namespace Frontend

/-- What ends a segment of a text literal. -/
inductive SegmentEnd where
  /-- The closing quote, which belongs to the segment. -/
  | quote
  /-- The start of an interpolation, which does not belong to the segment. -/
  | interpolation
  /-- The end of the line or of the source text. -/
  | missing
deriving DecidableEq, Repr

/-- A segment of a text literal as it is written and what it stands for. -/
structure Segment where
  text : List Char
  content : List Char
  ending : SegmentEnd
deriving DecidableEq, Repr

variable (named? : String → Option Char)

/-- Read a segment of a text literal behind its opening quote or bracket. -/
def Segment.read (ahead : List Char) : Segment :=
  match ahead with
  | []                 => ⟨[], [], .missing⟩
  | c :: rest          =>
    if c = '\n' then ⟨[], [], .missing⟩
    else if c = '"' then ⟨[c], [], .quote⟩
    else if c = '\\' then
      let e := Escape.read named? rest
      let s := Segment.read (rest.drop e.text.length)
      ⟨c :: e.text ++ s.text, e.content ++ s.content, s.ending⟩
    else if c = '$' ∧ rest.head? = some '\x7b' then ⟨[], [], .interpolation⟩
    else
      let s := Segment.read rest
      ⟨c :: s.text, c :: s.content, s.ending⟩
termination_by ahead.length
decreasing_by
  · rw [List.length_drop, List.length_cons]
    omega
  · exact Nat.lt_succ_self _

/-- A character literal as it is written, without its quotes, and what it stands for. -/
structure CharacterBody where
  text : List Char
  content : List Char
deriving DecidableEq, Repr

/-- Read what is between the quotes of a character literal, behind its opening quote. There is
nothing to read at a closing quote and at the end of the line. -/
def CharacterBody.read? (ahead : List Char) : Option CharacterBody :=
  match ahead with
  | []        => none
  | c :: rest =>
    if c = '\\' then
      let e := Escape.read named? rest
      some ⟨c :: e.text, e.content⟩
    else if c = '\'' ∨ c = '\n' then none
    else some ⟨[c], [c]⟩

end Frontend
