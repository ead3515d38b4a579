import Frontend.Paint.Painter
import Frontend.Tree.Module

/-!
# Outlines

The indented outline of a token, an expression or a module: the name of a node, and below it its
parts, each on a line of its own behind its name. Outlines are paintings.
-/

namespace Frontend.Outline

open Painting

/-! ### Styles and parts -/

private def nameStyle : Style := (Style.bright .cyan).strong
private def fieldStyle : Style := .bright .white
private def spanStyle : Style := .bright .black
private def specialStyle : Style := .bright .cyan
private def verbatimStyle : Style := .dark .yellow

/-- The depth of the parts of a node at a given depth, in spaces. -/
def deeper (depth : Nat) : Nat := depth + 4

/-- The name of a node. -/
def name (title : String) : Painting := styledText nameStyle title

/-- A part of a node, at the depth of the part. -/
def field (depth : Nat) (title : String) (body : Painting) : Painting :=
  text ("\n" ++ String.ofList (List.replicate depth ' ')) ++ styledText fieldStyle title ++
    text ": " ++ body

/-- A word in the place of a part that is not there. -/
def special (word : String) : Painting := styledText specialStyle word

/-- A text as it is, behind a space. -/
def verbatim (t : String) : Painting := styledText verbatimStyle (" " ++ t)

/-- A span. -/
def ofSpan (s : Span) : Painting := styledText spanStyle s.inspect

/-- The numbered items of a list, at the depth of the items. -/
def numbered {α : Type} (body : α → Painting) (depth : Nat) : Nat → List α → Painting
  | _, []      => []
  | i, a :: as => field depth (toString i) (body a) ++ numbered body depth (i + 1) as

/-- A list at a given depth. -/
def ofList {α : Type} (body : Nat → α → Painting) (depth : Nat) (as : List α) : Painting :=
  if as.isEmpty then special "empty" else numbered (body (deeper depth)) (deeper depth) 0 as

/-! ### Tokens -/

/-- The kind of a token. -/
def ofKind : TokenKind → Painting
  | .symbol s           => name "Symbol" ++ verbatim s.name
  | .identifier n       => name "Identifier" ++ verbatim n
  | .operator n         => name "Operator" ++ verbatim n
  | .text content       => name "Text" ++ verbatim (Text.quoted content)
  | .character content  => name "Character" ++ verbatim (Text.quoted content)
  | .number digits      => name "Number" ++ verbatim digits
  | .indentation blanks => name "Indent" ++ verbatim (Text.quoted blanks)
  | .lineBreak          => name "NewLine"
  | .endOfInput         => name "EndOfFile"

/-- A token with its span. -/
def ofToken (t : Token) : Painting := ofSpan t.span ++ text " " ++ ofKind t.kind

/-! ### Expressions -/

mutual

/-- An expression at a given depth. -/
def ofExpression (depth : Nat) : Expression → Painting
  | .factor token span                  => ofSpan span ++ text " " ++ ofKind token.kind
  | .application callee argument span   =>
    ofSpan span ++ text " " ++ name "Application" ++
      field (deeper depth) "callee" (ofExpression (deeper depth) callee) ++
      field (deeper depth) "argument" (ofExpression (deeper depth) argument)
  | .operation operator left right span =>
    ofSpan span ++ text " " ++ name "BinaryOperation" ++
      field (deeper depth) "operator" (ofToken operator) ++
      field (deeper depth) "left" (ofExpression (deeper depth) left) ++
      field (deeper depth) "right" (ofExpression (deeper depth) right)
  | .tuple elements span                =>
    ofSpan span ++ text " " ++ name "Tuple" ++
      field (deeper depth) "elements" (ofExpressions (deeper depth) elements)
  | .list elements span                 =>
    ofSpan span ++ text " " ++ name "List" ++
      field (deeper depth) "elements" (ofExpressions (deeper depth) elements)
  | .interpolation segments span        =>
    ofSpan span ++ text " " ++ name "Interpolation" ++
      field (deeper depth) "segments" (ofExpressions (deeper depth) segments)

/-- A list of expressions at a given depth. -/
def ofExpressions (depth : Nat) : List Expression → Painting
  | []      => special "empty"
  | e :: es =>
    field (deeper depth) "0" (ofExpression (deeper depth) e) ++
      numberedExpressions (deeper depth) 1 es

/-- The numbered expressions of a list, at the depth of the items. -/
def numberedExpressions (depth : Nat) : Nat → List Expression → Painting
  | _, []      => []
  | i, e :: es =>
    field depth (toString i) (ofExpression depth e) ++ numberedExpressions depth (i + 1) es

end

/-! ### Modules -/

/-- An identifier with its span. -/
def ofIdentifier (i : Identifier) : Painting := ofSpan i.span ++ verbatim i.name

/-- An import at a given depth. -/
def ofImport (depth : Nat) (i : Import) : Painting :=
  name "Import" ++
    field (deeper depth) "module" (ofIdentifier i.source) ++
    field (deeper depth) "alias" (ofIdentifier i.localName) ++
    field (deeper depth) "bindings" (ofList (fun _ => ofIdentifier) (deeper depth) i.bindings)

/-- The declaration of a function at a given depth. -/
def ofDeclaration (depth : Nat) (d : Declaration) : Painting :=
  name "Declaration" ++
    field (deeper depth) "binder" (ofIdentifier d.binder) ++
    field (deeper depth) "body" (ofExpression (deeper depth) d.body)

/-- A deferred item. -/
def ofDeferred (d : Deferred) : Painting :=
  ofSpan d.span ++ text " " ++ name ("Deferred." ++ d.kind.label)

/-- A list of exports at a given depth, or a word that there is none. -/
def ofExports (depth : Nat) : Option (List Identifier) → Painting
  | some is => ofList (fun _ => ofIdentifier) depth is
  | none    => special "none"

/-- A module at a given depth. -/
def ofModule (depth : Nat) (m : Module) : Painting :=
  name "Module" ++
    field (deeper depth) "name" (ofIdentifier m.name) ++
    field (deeper depth) "exports" (ofExports (deeper depth) m.exports) ++
    field (deeper depth) "imports" (ofList ofImport (deeper depth) m.imports) ++
    field (deeper depth) "declarations" (ofList ofDeclaration (deeper depth) m.declarations) ++
    field (deeper depth) "deferred" (ofList (fun _ => ofDeferred) (deeper depth) m.deferred)

end Frontend.Outline
