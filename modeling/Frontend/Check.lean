import Frontend.Diagnostic.Report
import Frontend.Grammar.Module
import Frontend.Token.Lexer

/-!
# Checking files

A file is checked by reading its tokens and the module that they spell. The first fault becomes an
error; each item of the module that is not read becomes a warning.
-/

namespace Frontend

/-! ### Diagnostics of faults -/

/-- The error of a lexical fault. -/
def LexicalError.diagnostic (e : LexicalError) : Diagnostic :=
  let d := (Diagnostic.ofSeverity .error).withMessage e.value.message
  match e.value with
  | .unterminatedText      =>
    ((d.withCode .unterminatedText).about e.span "the literal starts here").help
      "close the literal with a quotation mark before the end of the line"
  | .unterminatedCharacter =>
    ((d.withCode .unterminatedCharacter).about e.span "the literal starts here").note
      "a character literal contains exactly one character or escape sequence"
  | .finalDot              =>
    ((d.withCode .finalDot).about e.span "expected a digit").help "add a zero after the dot"
  | .severalDots           => (d.withCode .severalDots).about e.span "extraneous dot"
  | .unterminatedComment   =>
    ((d.withCode .unterminatedComment).about e.span "the comment starts here").help
      ("close the comment with " ++ Text.cite "*/")
  | .illegalCharacter c    =>
    (d.withCode .illegalCharacter).about e.span (Text.cite (String.ofList (Text.escapeChar c)))

/-- The code of a syntactic fault. -/
def SyntaxFault.code : SyntaxFault → ErrorCode
  | .noModuleHeader            => .noModuleHeader
  | .invalidModuleName         => .invalidModuleName
  | .invalidExport             => .invalidExport
  | .invalidImport             => .invalidImport
  | .invalidImportAlias        => .invalidImportAlias
  | .invalidImportBinding      => .invalidImportBinding
  | .unexpectedIndentation     => .unexpectedIndentation
  | .declarationExpected       => .declarationExpected
  | .equalsExpected            => .equalsExpected
  | .expressionExpected        => .expressionExpected
  | .unclosedBracket _ _       => .unclosedBracket
  | .terminatorExpected        => .terminatorExpected
  | .nonAssociativeOperator    => .nonAssociativeOperator
  | .unterminatedInterpolation => .unterminatedInterpolation

/-- The error of a syntactic fault. -/
def SyntaxError.diagnostic (e : SyntaxError) : Diagnostic :=
  let d := (((Diagnostic.ofSeverity .error).withCode e.fault.code).withMessage
    e.fault.message).about e.token.span ("found " ++ e.token.kind.display)
  match e.fault with
  | .noModuleHeader            =>
    d.help ("start the file with a module header like " ++ Text.cite "module Main")
  | .unexpectedIndentation     => d.note "top-level declarations may not be indented"
  | .unclosedBracket _ opening => d.beside opening "the bracket is opened here"
  | .equalsExpected            => d.help ("define the function with " ++ Text.cite "=")
  | .nonAssociativeOperator    =>
    (d.note "the operator is not associative").help "add parentheses"
  | .terminatorExpected        =>
    d.help ("end the declaration with a line break or with " ++ Text.cite ";")
  | _                          => d

/-- The diagnostic of a failure to read tokens. Tokens that come from a source text can only fail
with an error. -/
def ParseFailure.diagnostic : ParseFailure → Diagnostic
  | .error e    => e.diagnostic
  | .disorder d => (Diagnostic.ofSeverity .bug).withMessage d.message
  | .endless    => (Diagnostic.ofSeverity .bug).withMessage "the tokens have no end of input"

/-- The warning of an item that is not read. -/
def Deferred.diagnostic (d : Deferred) : Diagnostic :=
  ((Diagnostic.ofSeverity .warning).withMessage (d.kind.plural ++ " are not supported yet")).about
    d.span "skipped"

/-! ### Passes -/

/-- The tokens of a file, or the diagnostic of the first fault. -/
def SourceFile.tokens (file : SourceFile) : Except Diagnostic (List Token) :=
  (lex file.content).mapError LexicalError.diagnostic

/-- A module and the tokens that spell it. -/
structure Checked where
  tokens : List Token
  module : Module
deriving Repr

/-- The module that tokens spell, or the diagnostic of the first fault. -/
def Module.ofTokens (tokens : List Token) (fixities : FixityTable) : Except Diagnostic Module :=
  (parseModule tokens fixities).mapError ParseFailure.diagnostic

/-- The warnings about a module. -/
def Module.warnings (m : Module) : List Diagnostic := m.deferred.map Deferred.diagnostic

/-- Check a file: the module that it holds, unless there is a fault. -/
def SourceFile.check (file : SourceFile) (fixities : FixityTable) : Except Diagnostic Checked := do
  let tokens ← file.tokens
  let module ← Module.ofTokens tokens fixities
  return ⟨tokens, module⟩

/-- The diagnostics of a checked file, in the order in which they are found. -/
def reported : Except Diagnostic Checked → List Diagnostic
  | .ok c    => c.module.warnings
  | .error d => [d]

/-- The diagnostics of a file, in order and without duplicates. -/
def SourceFile.diagnostics (file : SourceFile) (fixities : FixityTable) : List Diagnostic :=
  OrderedList.ofList (reported (file.check fixities))

end Frontend
