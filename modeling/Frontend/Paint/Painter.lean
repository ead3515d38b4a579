import Frontend.Paint.Style

/-!
# Painting

Styled text is a sequence of instructions: to set a style, to unset it, and to write. Styles nest:
unsetting a style brings back the one below it. A painter that does not colorize writes the text
alone.
-/

namespace Frontend

/-- When to use colours. -/
inductive ColorChoice where
  | auto
  | never
  | always
deriving DecidableEq, Repr

namespace ColorChoice

/-- The choices in the order in which they are offered. -/
def all : List ColorChoice := [auto, never, always]

/-- The name of a choice. -/
def name : ColorChoice → String
  | auto   => "auto"
  | never  => "never"
  | always => "always"

/-- The choice of a given name. -/
def ofName? (name : String) : Option ColorChoice := all.find? (·.name == name)

/-- Whether text is colorized that does not go to a terminal. -/
def colorizes (c : ColorChoice) : Bool := c == always

end ColorChoice

/-! ### Instructions -/

/-- A step of painting. -/
inductive Instruction where
  | set (style : Style)
  | unset
  | write (text : String)
deriving DecidableEq, Repr

/-- A text to be painted. -/
abbrev Painting := List Instruction

namespace Painting

/-- A text in the current style. -/
def text (t : String) : Painting := [.write t]

/-- A painting in a style of its own. -/
def styled (style : Style) (body : Painting) : Painting := .set style :: body ++ [.unset]

/-- A text in a style of its own. -/
def styledText (style : Style) (t : String) : Painting := styled style (text t)

end Painting

/-! ### Painters -/

/-- Whether a painter colorizes, and the styles that are set, the innermost first. -/
structure Painter where
  colorize : Bool
  styles : List Style
deriving DecidableEq, Repr

namespace Painter

/-- The painter of a choice of colours for text that does not go to a terminal. -/
def ofChoice (c : ColorChoice) : Painter := ⟨c.colorizes, []⟩

/-- Follow an instruction: the painter afterwards and the text it writes. -/
def step (p : Painter) (i : Instruction) : Painter × String :=
  match i with
  | .write t   => (p, t)
  | .set style =>
    if p.colorize then ({ p with styles := style :: p.styles }, style.enter) else (p, "")
  | .unset     =>
    match p.styles with
    | style :: outer =>
      if p.colorize then
        ({ p with styles := outer }, style.leave ++ (outer.head?.map Style.enter).getD "")
      else (p, "")
    | []             => (p, "")

/-- Follow instructions: the painter afterwards and the texts it writes. -/
def run (p : Painter) : Painting → Painter × List String
  | []      => (p, [])
  | i :: is =>
    let (q, t) := p.step i
    let (r, ts) := q.run is
    (r, t :: ts)

/-- The text that instructions write. -/
def paint (p : Painter) (painting : Painting) : String := String.join (p.run painting).2

end Painter

/-- Paint a text with a choice of colours. -/
def Painting.toText (painting : Painting) (c : ColorChoice) : String :=
  (Painter.ofChoice c).paint painting

end Frontend
