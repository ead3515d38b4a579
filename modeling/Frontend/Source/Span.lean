import Frontend.Source.Position

/-!
# Spans

A span is a stretch of a source text between two positions. `Span.between` builds one and refuses
positions in the wrong order; `Span.merge` is the span from the start of one to the end of
another, refused likewise. `Located` pairs any value with its span.
-/

namespace Frontend

/-- A stretch of source text from `start` up to, but without, `stop`. -/
structure Span where
  start : Position
  stop : Position
deriving DecidableEq, Inhabited, Repr

namespace Span

/-- The start of a span would lie behind its end. -/
structure Disorder where
  start : Position
  stop : Position
deriving DecidableEq, Repr

/-- The wording of a disorder. -/
def Disorder.message (d : Disorder) : String :=
  "span start (" ++ d.start.inspect ++ ") > span end (" ++ d.stop.inspect ++ ")"

/-- The span between two positions, which have to be in order. -/
def between (start stop : Position) : Except Disorder Span :=
  if start ≤ stop then .ok ⟨start, stop⟩ else .error ⟨start, stop⟩

/-- The span without any text at a position. -/
def empty (p : Position) : Span := ⟨p, p⟩

/-- The empty span before the first character. -/
def origin : Span := empty .origin

/-- The span of a stretch of text that begins at a position. -/
def ofText (p : Position) (text : List Char) : Span := ⟨p, p.after text⟩

/-- The span from the start of one span to the end of another, if there is another one. -/
def merge (s : Span) : Option Span → Except Disorder Span
  | some t => between s.start t.stop
  | none   => .ok s

/-- The span with its end moved to the end of another one, in whatever order they are. -/
def extend (s : Span) : Option Span → Span
  | some t => ⟨s.start, t.stop⟩
  | none   => s

/-- The span from the start of the first to the end of the last of several spans. -/
def ofList : List Span → Option Span
  | []      => none
  | s :: ss => some (s.extend ss.getLast?)

/-- A span that ends on another line than it starts on. -/
def isMultiLine (s : Span) : Bool := s.start.line != s.stop.line

/-- Spans are ordered by their start, then by their end. -/
instance : Ord Span where
  compare := compareLex (compareOn start) (compareOn stop)

/-- The exact form `start..stop`. -/
def inspect (s : Span) : String := s.start.inspect ++ ".." ++ s.stop.inspect

end Span

/-- A value together with the span it was read from. -/
structure Located (α : Type) where
  value : α
  span : Span
deriving DecidableEq, Repr

namespace Located

variable {α β : Type}

/-- A value that was not read from any source text. -/
def unplaced (a : α) : Located α := ⟨a, .origin⟩

/-- Change the value and keep the span. -/
def map (f : α → β) (a : Located α) : Located β := ⟨f a.value, a.span⟩

/-- The exact form of the value followed by that of the span. -/
def inspect (form : α → String) (a : Located α) : String := form a.value ++ " " ++ a.span.inspect

end Located

end Frontend
