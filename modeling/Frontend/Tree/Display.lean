import Frontend.Tree.Expression

/-!
# Expressions as source text

A compact form of expressions that can be read again. Operations are always in brackets, and so are
arguments that are applications themselves.
-/

namespace Frontend

/-- The content of a text literal as it is written between its quotes. -/
def Text.escapeLiteral (content : String) : String :=
  String.ofList
    (content.toList.flatMap fun c => if c = '$' then ['\\', '$'] else Text.escapeChar c)

namespace Expression

/-- A token as a factor. -/
def displayFactor : TokenKind → String
  | .text content      => "\"" ++ Text.escapeLiteral content ++ "\""
  | .character content => "'" ++ content ++ "'"
  | kind               => kind.payload?.getD ""

/-- An argument that is an application needs brackets of its own. -/
def isApplication : Expression → Bool
  | application _ _ _ => true
  | _                 => false

mutual

/-- An expression as source text. -/
def display : Expression → String
  | factor token _                     => displayFactor token.kind
  | application callee argument _      =>
    callee.display ++ " " ++
      (if argument.isApplication then "(" ++ argument.display ++ ")" else argument.display)
  | operation operator left right _    =>
    if operator.kind.isSymbol .dotAccess then
      "(" ++ left.display ++ "." ++ right.display ++ ")"
    else
      "(" ++ left.display ++ " " ++ operator.kind.payload?.getD "" ++ " " ++ right.display ++ ")"
  | tuple elements _                   =>
    "(" ++ String.intercalate ", " (displayAll elements) ++ ")"
  | list elements _                    =>
    "\x7b" ++ String.intercalate ", " (displayAll elements) ++ "\x7d"
  | interpolation segments _           =>
    "\"" ++ String.join (displaySegments true segments) ++ "\""

/-- Several expressions as source text. -/
def displayAll : List Expression → List String
  | []      => []
  | e :: es => e.display :: displayAll es

/-- The segments of a text literal as they are written between its quotes. Text is expected in
turns, and everything else is interpolated. -/
def displaySegments : (textExpected : Bool) → List Expression → List String
  | _, []                 => []
  | textExpected, e :: es =>
    (match textExpected, e with
      | true, factor ⟨.text content, _⟩ _ => Text.escapeLiteral content
      | _, _                              => "$\x7b" ++ e.display ++ "\x7d")
      :: displaySegments (!textExpected) es

end

end Expression

end Frontend
