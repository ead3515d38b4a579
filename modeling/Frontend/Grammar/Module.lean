import Frontend.Grammar.Expression
import Frontend.Tree.Module

/-!
# Reading modules

A module is a header, imports and items, each of which ends at a line break, a semicolon or the end
of input:

    Module   ::= Header (Import | Terminator)* (Item | Terminator)* #EndOfInput
    Header   ::= "module" #Identifier Bindings? Terminator
    Import   ::= "import" #Identifier ("as" #Identifier)? Bindings? Terminator
    Bindings ::= "(" (#Identifier ("," #Identifier)*)? ")"
    Item     ::= #Identifier "=" Expression Terminator
               | Deferred Terminator

A deferred item starts with `data`, or with an identifier and a colon. It is skipped up to the end
of its line, which goes on at indented lines.
-/

namespace Frontend.Parser

/-! ### Layout -/

/-- Step past line breaks and lines that hold only an indentation. -/
def blankLinesWithin : Nat → Parser Unit
  | 0     => diverge
  | n + 1 => do
    let kind := (← current).kind
    if kind == .lineBreak || (kind.isIndentation && (← peek 1).kind.isBlank) then
      advance
      blankLinesWithin n
    else return ()

/-- Step past blank lines and semicolons. What follows must not be indented. -/
def separatorsWithin : Nat → Parser Unit
  | 0     => diverge
  | n + 1 => do
    repeated blankLinesWithin
    if ← consume .semicolon then separatorsWithin n
    else require (!(← current).kind.isIndentation) .unexpectedIndentation

/-- Step past blank lines and semicolons between the items of a module. -/
def separators : Parser Unit := repeated separatorsWithin

/-- Read the end of a header, an import or an item. The end of input is not passed. -/
def terminator : Parser Unit := do
  let kind := (← current).kind
  if kind == .lineBreak || kind.isSymbol .semicolon then advance
  else require (kind == .endOfInput) .terminatorExpected

/-- Step past the rest of a line and the lines that continue it. The span so far is given and the
span with all of the tokens is the result. -/
def lineWithin : Nat → Span → Parser Span
  | 0, _        => diverge
  | n + 1, span => fun s =>
    let token := s.current
    if token.kind = .endOfInput ∨ token.kind = .symbol .semicolon then .ok span s
    else if token.kind = .lineBreak then
      if s.continues fun _ => true then lineWithin n span (s.skipContinuation fun _ => true)
      else .ok span s
    else
      match merge span token.span s with
      | .ok span s   => lineWithin n span s.advance
      | .error e s   => .error e s

/-! ### Header and imports -/

/-- Read an identifier. -/
def identifier (fault : SyntaxFault) : Parser Identifier := fun s =>
  match Identifier.ofToken? s.current with
  | some i => .ok i s.advance
  | none   => .error (.error ⟨fault, s.current⟩) s

/-- Read identifiers with commas between them, and the closing bracket. -/
def bindingsWithin (fault : SyntaxFault) : Nat → Parser (List Identifier)
  | 0     => diverge
  | n + 1 => do
    let first ← identifier fault
    if ← consume .closeRound then return [first]
    else
      let _ ← take (·.isSymbol .comma) fault
      return first :: (← bindingsWithin fault n)

/-- Read a list of identifiers in round brackets, if there is one. -/
def bindings? (fault : SyntaxFault) : Parser (Option (List Identifier)) := do
  if ← consume .openRound then
    if ← consume .closeRound then return some []
    else return some (← repeated (bindingsWithin fault))
  else return none

/-- Read the name and the exports of a module. -/
def header : Parser (Identifier × Option (List Identifier)) := do
  let _ ← take (·.isSymbol .moduleWord) .noModuleHeader
  let name ← identifier .invalidModuleName
  let exports ← bindings? .invalidExport
  terminator
  return (name, exports)

/-- Read the name under which a module is imported, if there is one. -/
def localName? : Parser (Option Identifier) := do
  if ← consume .asWord then return some (← identifier .invalidImportAlias) else return none

/-- Read an import behind its first word. -/
def importRest : Parser Import := do
  let source ← identifier .invalidImport
  let localName ← localName?
  let bindings ← bindings? .invalidImportBinding
  terminator
  return ⟨source, localName.getD source, bindings.getD []⟩

/-- Read imports and what separates them. -/
def importsWithin : Nat → Parser (List Import)
  | 0     => diverge
  | n + 1 => do
    separators
    if ← consume .importWord then
      let first ← importRest
      return first :: (← importsWithin n)
    else return []

/-! ### Items -/

/-- An item of a module. -/
inductive Item where
  | declared (d : Declaration)
  | deferred (d : Deferred)
deriving Repr

/-- Read the declaration of a function. -/
def declaration (fixities : FixityTable) : Parser Declaration := do
  let binder ← identifier .declarationExpected
  let _ ← take (·.isSymbol .equals) .equalsExpected
  let body ← expect .expressionExpected (← expression fixities)
  terminator
  return ⟨binder, body⟩

/-- Step past an item that is not read. -/
def deferred (kind : DeferredKind) : Parser Deferred := do
  let span ← repeated fun n => do lineWithin n (← current).span
  terminator
  return ⟨kind, span⟩

/-- Read an item. -/
def item (fixities : FixityTable) : Parser Item := do
  let kind := (← current).kind
  if kind.isSymbol .dataWord then return .deferred (← deferred .data)
  else if kind.isIdentifier then
    if (← peek 1).kind.isSymbol .colon then return .deferred (← deferred .signature)
    else return .declared (← declaration fixities)
  else fail .declarationExpected

/-- Read items and what separates them up to the end of input. -/
def itemsWithin (fixities : FixityTable) : Nat → Parser (List Item)
  | 0     => diverge
  | n + 1 => do
    separators
    if (← current).kind == .endOfInput then return []
    else
      let first ← item fixities
      return first :: (← itemsWithin fixities n)

/-- The declaration of a function that an item is. -/
def Item.declaration? : Item → Option Declaration
  | .declared d => some d
  | .deferred _ => none

/-- The deferred item that an item is. -/
def Item.deferred? : Item → Option Deferred
  | .declared _ => none
  | .deferred d => some d

/-- Read a module. -/
def module (fixities : FixityTable) : Parser Module := do
  repeated blankLinesWithin
  require (!(← current).kind.isIndentation) .unexpectedIndentation
  let (name, exports) ← header
  let imports ← repeated importsWithin
  let items ← repeated (itemsWithin fixities)
  return ⟨name, exports, imports, items.filterMap Item.declaration?, items.filterMap Item.deferred?⟩

end Frontend.Parser

namespace Frontend

/-- The module that tokens spell. -/
def parseModule (tokens : List Token) (fixities : FixityTable) : Except ParseFailure Module :=
  (Parser.module fixities).run' tokens

end Frontend
