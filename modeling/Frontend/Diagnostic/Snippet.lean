import Frontend.Diagnostic.Basic
import Frontend.Paint.Painter
import Frontend.Source.File
import Frontend.Text.Width

/-!
# The text of diagnostics

A diagnostic is shown as a headline, a snippet of the source text for each highlight, and its
remarks. A snippet names the place, quotes the line that the highlight starts on, and marks the
highlighted part below it. The rows of all snippets have their bars in one column, which leaves
room for the widest line number.

How many columns a text takes up is given by a measure, which tabs are expanded for.
-/

namespace Frontend

/-! ### Styles -/

namespace Severity

/-- The style of a severity. -/
def style : Severity → Style
  | bug     => .bright .red
  | error   => .bright .red
  | warning => .bright .yellow

end Severity

namespace RemarkKind

/-- The style of a kind of remark. -/
def style : RemarkKind → Style
  | note => .bright .blue
  | help => .bright .cyan

end RemarkKind

namespace Role

/-- The character that marks a highlight. -/
def marker : Role → Char
  | primary   => '^'
  | secondary => '-'

/-- The style of a highlight in a diagnostic of a given style. -/
def style (main : Style) : Role → Style
  | primary   => main
  | secondary => .bright .blue

end Role

/-! ### Snippets -/

/-- The text with four spaces in the place of each tab. -/
def Text.expandTabs (text : List Char) : List Char :=
  text.flatMap fun c => if c = '\t' then List.replicate 4 ' ' else [c]

/-- A text of spaces. -/
def Text.spaces (n : Nat) : String := String.ofList (List.replicate n ' ')

/-- A highlight and the line that it starts on. -/
structure Snippet where
  /-- The number of the line, counted from one. -/
  number : Nat
  /-- The first character of the highlight in its line, counted from one. -/
  column : Nat
  line : List Char
  /-- The columns before the markers. -/
  indent : Nat
  /-- The columns of the highlighted text. -/
  extent : Nat
  role : Role
  label : Option String
deriving DecidableEq, Repr

namespace Snippet

open Painting

variable (measure : List Char → Nat)

/-- The snippet of a highlight, unless the file has no such line. A highlight that ends on another
line is cut off at the end of its first one. -/
def ofHighlight? (file : SourceFile) (h : Highlight) : Option Snippet :=
  (file.line? h.span.start.line).map fun line =>
    let first := h.span.start.column
    let stop := if h.span.isMultiLine then line.length else h.span.stop.column
    { number := h.span.start.line + 1
      column := first + 1
      line := line
      indent := measure (Text.expandTabs (line.take first))
      extent := measure (Text.expandTabs ((line.drop first).take (stop - first)))
      role := h.role
      label := h.label }

/-- The style of everything around the quoted text. -/
def frame : Style := .bright .blue

/-- A row without any text of its own. -/
def bar (padding : Nat) : Painting := text "\n" ++ styledText frame (Text.spaces padding ++ " |")

/-- The row that names the place. -/
def location (padding : Nat) (name : String) (s : Snippet) : Painting :=
  text "\n" ++ styledText frame
    (Text.spaces padding ++ "--> " ++ name ++ ":" ++ toString s.number ++ ":" ++ toString s.column)

/-- The row that quotes the line. -/
def source (padding : Nat) (s : Snippet) : Painting :=
  let number := toString s.number
  text "\n" ++ styledText frame (Text.spaces (padding - number.length) ++ number ++ " |") ++
    text (" " ++ String.ofList (Text.expandTabs s.line))

/-- The markers of the highlight and its label. -/
def markers (s : Snippet) : String :=
  " " ++ Text.spaces s.indent ++
    String.ofList (List.replicate (max 1 s.extent) s.role.marker) ++
    (s.label.map (" " ++ ·)).getD ""

/-- The row that marks the highlight, in a diagnostic of a given style. -/
def caret (padding : Nat) (main : Style) (s : Snippet) : Painting :=
  bar padding ++ styledText (s.role.style main) s.markers

/-- All rows of a snippet. -/
def painting (padding : Nat) (name : String) (main : Style) (s : Snippet) : Painting :=
  s.location padding name ++ bar padding ++ s.source padding ++ s.caret padding main

/-- The width of the line numbers: that of the largest one. -/
def numberWidth (snippets : List Snippet) : Nat :=
  (toString ((snippets.map (·.number)).foldl max 0)).length

end Snippet

/-! ### Diagnostics -/

namespace Diagnostic

open Painting

variable (measure : List Char → Nat)

/-- The severity, the code and the message. -/
def headline (d : Diagnostic) : Painting :=
  styledText d.severity.style.strong d.severity.name ++
    (d.code.map fun c => styledText d.severity.style ("[" ++ c.label ++ "]")).getD [] ++
    (d.message.map fun m => text ": " ++ styledText (.ofEffects .boldOnly) m).getD []

/-- The snippets of the highlights whose lines are in the file. -/
def snippets (file : Option SourceFile) (d : Diagnostic) : List Snippet :=
  match file with
  | some file => d.highlights.filterMap (Snippet.ofHighlight? measure file)
  | none      => []

/-- The row with the path, which is left out if the snippets name the file. -/
def pathRow (padding : Nat) (file : Option SourceFile) (d : Diagnostic) : Painting :=
  match d.path with
  | some path =>
    if file.isSome && !d.highlights.isEmpty then []
    else text "\n" ++ styledText Snippet.frame (Text.spaces padding ++ "--> " ++ path)
  | none      => []

/-- The row of a remark. -/
def remarkRow (padding : Nat) (r : Remark) : Painting :=
  text "\n" ++ styledText Snippet.frame (Text.spaces padding ++ " = ") ++
    styledText r.kind.style r.kind.name ++ text (": " ++ r.message)

/-- A diagnostic about a file as a painting. -/
def painting (file : Option SourceFile) (d : Diagnostic) : Painting :=
  let snippets := d.snippets measure file
  let padding := Snippet.numberWidth snippets
  let name := (file.map SourceFile.name).getD ""
  d.headline ++ d.pathRow padding file ++
    snippets.flatMap (Snippet.painting padding name d.severity.style) ++
    (if snippets.isEmpty || d.remarks.isEmpty then [] else Snippet.bar padding) ++
    d.remarks.flatMap (remarkRow padding)

/-- The text of a diagnostic about a file. -/
def format (file : Option SourceFile) (c : ColorChoice) (d : Diagnostic) : String :=
  (d.painting Text.width file).toText c

end Diagnostic

end Frontend
