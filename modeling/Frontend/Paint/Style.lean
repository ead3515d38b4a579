/-!
# Styles

The colours and effects of text on a terminal. A style is put into effect by one escape sequence
for each of its attributes.
-/

namespace Frontend

/-- The eight hues of a terminal. -/
inductive Hue where
  | black
  | red
  | green
  | yellow
  | blue
  | magenta
  | cyan
  | white
deriving DecidableEq, Repr

namespace Hue

/-- The hues in the order of their numbers. -/
def all : List Hue := [black, red, green, yellow, blue, magenta, cyan, white]

/-- The name of a hue. -/
def name : Hue → String
  | black   => "Black"
  | red     => "Red"
  | green   => "Green"
  | yellow  => "Yellow"
  | blue    => "Blue"
  | magenta => "Magenta"
  | cyan    => "Cyan"
  | white   => "White"

/-- The number of a hue. -/
def number : Hue → Nat
  | black   => 0
  | red     => 1
  | green   => 2
  | yellow  => 3
  | blue    => 4
  | magenta => 5
  | cyan    => 6
  | white   => 7

end Hue

/-- A colour of a terminal: a hue in one of two brightnesses. -/
structure Color where
  hue : Hue
  bright : Bool
deriving DecidableEq, Repr

namespace Color

/-- All colours, first the plain and then the bright ones. -/
def all : List Color := Hue.all.map (⟨·, false⟩) ++ Hue.all.map (⟨·, true⟩)

/-- The name of a colour. -/
def name (c : Color) : String := (if c.bright then "Bright" else "") ++ c.hue.name

/-- The colour of a given name. -/
def ofName? (name : String) : Option Color := all.find? (·.name == name)

/-- The code that sets the foreground to a colour. -/
def foregroundCode (c : Color) : Nat := (if c.bright then 90 else 30) + c.hue.number

/-- The code that sets the background to a colour. -/
def backgroundCode (c : Color) : Nat := (if c.bright then 100 else 40) + c.hue.number

end Color

/-- The effects of a style. -/
structure Effects where
  bold : Bool
  dimmed : Bool
  italic : Bool
  underline : Bool
deriving DecidableEq, Repr

namespace Effects

/-- No effect. -/
def none : Effects := ⟨false, false, false, false⟩

/-- Bold text. -/
def boldOnly : Effects := { none with bold := true }

/-- The effects of given names, unless there is an unknown one. -/
def ofNames? (names : List String) : Option Effects :=
  if names.all (["bold", "dimmed", "italic", "underline"].contains ·) then
    some ⟨names.contains "bold", names.contains "dimmed", names.contains "italic",
      names.contains "underline"⟩
  else Option.none

/-- The codes that set the effects. -/
def codes (e : Effects) : List Nat :=
  (if e.bold then [1] else []) ++ (if e.dimmed then [2] else []) ++
    (if e.italic then [3] else []) ++ (if e.underline then [4] else [])

end Effects

/-- The colours and effects of a text. -/
structure Style where
  foreground : Option Color
  background : Option Color
  effects : Effects
deriving DecidableEq, Repr

namespace Style

/-- The style without any colour or effect. -/
def plain : Style := ⟨none, none, .none⟩

/-- The style of a foreground. -/
def ofColor (c : Color) : Style := { plain with foreground := some c }

/-- The style of a background. -/
def ofBackground (c : Color) : Style := { plain with background := some c }

/-- The style of effects. -/
def ofEffects (e : Effects) : Style := { plain with effects := e }

/-- The style of a hue in its bright form. -/
def bright (h : Hue) : Style := ofColor ⟨h, true⟩

/-- The style of a hue in its plain form. -/
def dark (h : Hue) : Style := ofColor ⟨h, false⟩

/-- The same style in bold. -/
def strong (s : Style) : Style := { s with effects := { s.effects with bold := true } }

/-- The codes of a style: the effects, the foreground, and the background. -/
def codes (s : Style) : List Nat :=
  s.effects.codes ++ (s.foreground.map Color.foregroundCode).toList ++
    (s.background.map Color.backgroundCode).toList

/-- The escape sequence of a code. -/
def sequence (code : Nat) : String := "\x1b[" ++ toString code ++ "m"

/-- The escape sequences that put a style into effect. -/
def enter (s : Style) : String := String.join (s.codes.map sequence)

/-- The escape sequence that ends a style, which a plain style has no need of. -/
def leave (s : Style) : String := if s = plain then "" else sequence 0

end Style

end Frontend
