import Frontend.Token.Basic

/-!
# Syntactic faults

Reading a module or an expression stops at the first token that does not fit. `SyntaxFault` says
what is wrong there.
-/

namespace Frontend

/-- Why tokens cannot be read as a module or an expression. -/
inductive SyntaxFault where
  /-- The file does not start with a module header. -/
  | noModuleHeader
  | invalidModuleName
  /-- A malformed name or separator in the list of exports. -/
  | invalidExport
  | invalidImport
  | invalidImportAlias
  /-- A malformed name or separator in a list of imported names. -/
  | invalidImportBinding
  /-- An item of the module is indented. -/
  | unexpectedIndentation
  | declarationExpected
  /-- No equals sign follows the name of a function. -/
  | equalsExpected
  | expressionExpected
  /-- The bracket opened at a span is not closed. -/
  | unclosedBracket (closing : Symbol) (opening : Span)
  /-- More tokens follow where an item has to end. -/
  | terminatorExpected
  /-- An operator that does not associate is chained with one of the same precedence. -/
  | nonAssociativeOperator
  /-- The rest of a text literal does not follow an expression inside of it. -/
  | unterminatedInterpolation
deriving DecidableEq, Repr

/-- What is wrong and the token that it is wrong at. -/
structure SyntaxError where
  fault : SyntaxFault
  token : Token
deriving DecidableEq, Repr

/-- The wording of a fault. -/
def SyntaxFault.message : SyntaxFault → String
  | .noModuleHeader            => "missing module header"
  | .invalidModuleName         => "expected the name of the module"
  | .invalidExport             => "invalid export"
  | .invalidImport             => "expected the name of the imported module"
  | .invalidImportAlias        => "expected an alias for the imported module"
  | .invalidImportBinding      => "invalid imported binding"
  | .unexpectedIndentation     => "unexpected indentation"
  | .declarationExpected       => "expected a declaration"
  | .equalsExpected            => "expected " ++ Text.cite "=" ++ " after the binder"
  | .expressionExpected        => "expected an expression"
  | .unclosedBracket closing _ => "expected a closing " ++ Text.cite closing.name
  | .terminatorExpected        => "expected a line break or " ++ Text.cite ";"
  | .nonAssociativeOperator    => "non-associative operators cannot be chained"
  | .unterminatedInterpolation => "unterminated string interpolation"

/-- The wording of an error. -/
def SyntaxError.message (e : SyntaxError) : String :=
  e.fault.message ++ ", found " ++ e.token.kind.display

end Frontend
