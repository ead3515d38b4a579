import Frontend.OrderedList
import Frontend.Source.Span
import Frontend.Text.Path

/-!
# Diagnostics

A diagnostic is a message about a source text: how severe it is, which code it has, which parts of
the text it is about, and what else there is to say. It is built up from an empty one of some
severity.
-/

namespace Frontend

/-! ### Codes and severities -/

/-- The codes of errors. -/
inductive ErrorCode where
  | unterminatedText
  | unterminatedCharacter
  | finalDot
  | severalDots
  | unterminatedComment
  | illegalCharacter
  | noModuleHeader
  | invalidModuleName
  | invalidExport
  | invalidImport
  | invalidImportAlias
  | invalidImportBinding
  | unexpectedIndentation
  | declarationExpected
  | equalsExpected
  | expressionExpected
  | unclosedBracket
  | terminatorExpected
  | nonAssociativeOperator
  | unterminatedInterpolation
  | loadFailure
deriving DecidableEq, Repr

namespace ErrorCode

/-- The codes in the order of their numbers. -/
def all : List ErrorCode :=
  [unterminatedText, unterminatedCharacter, finalDot, severalDots, unterminatedComment,
   illegalCharacter, noModuleHeader, invalidModuleName, invalidExport, invalidImport,
   invalidImportAlias, invalidImportBinding, unexpectedIndentation, declarationExpected,
   equalsExpected, expressionExpected, unclosedBracket, terminatorExpected,
   nonAssociativeOperator, unterminatedInterpolation, loadFailure]

/-- The number of a code. -/
def number : ErrorCode → Nat
  | unterminatedText          => 1
  | unterminatedCharacter     => 2
  | finalDot                  => 3
  | severalDots               => 4
  | unterminatedComment       => 5
  | illegalCharacter          => 6
  | noModuleHeader            => 10
  | invalidModuleName         => 11
  | invalidExport             => 12
  | invalidImport             => 13
  | invalidImportAlias        => 14
  | invalidImportBinding      => 15
  | unexpectedIndentation     => 16
  | declarationExpected       => 17
  | equalsExpected            => 18
  | expressionExpected        => 19
  | unclosedBracket           => 20
  | terminatorExpected        => 21
  | nonAssociativeOperator    => 22
  | unterminatedInterpolation => 23
  | loadFailure               => 30

/-- The form of a code in messages: a letter and three digits. -/
def label (c : ErrorCode) : String :=
  (if c.number < 10 then "E00" else "E0") ++ toString c.number

/-- The code of a given form. -/
def ofLabel? (label : String) : Option ErrorCode := all.find? (·.label == label)

/-- Codes are ordered by their numbers. -/
instance : Ord ErrorCode where
  compare := compareOn number

instance : Std.TransOrd ErrorCode := inferInstanceAs (Std.TransCmp (compareOn number))

end ErrorCode

/-- How severe a diagnostic is. -/
inductive Severity where
  /-- The program itself is at fault. -/
  | bug
  | error
  | warning
deriving DecidableEq, Repr

namespace Severity

/-- The name of a severity. -/
def name : Severity → String
  | bug     => "internal compiler error"
  | error   => "error"
  | warning => "warning"

/-- The place of a severity among the severities. -/
def rank : Severity → Nat
  | bug     => 0
  | error   => 1
  | warning => 2

/-- The most severe ones come first. -/
instance : Ord Severity where
  compare := compareOn rank

instance : Std.TransOrd Severity := inferInstanceAs (Std.TransCmp (compareOn rank))

/-- A diagnostic of the severity makes a check fail. -/
def isError : Severity → Bool
  | bug     => true
  | error   => true
  | warning => false

end Severity

/-! ### Highlights and remarks -/

/-- What a highlighted part of the text is to a diagnostic. -/
inductive Role where
  /-- What the diagnostic is about. -/
  | primary
  /-- What helps to understand it. -/
  | secondary
deriving DecidableEq, Repr

namespace Role

/-- The name of a role in exact forms. -/
def label : Role → String
  | primary   => "Primary"
  | secondary => "Secondary"

/-- The place of a role among the roles. -/
def rank : Role → Nat
  | primary   => 0
  | secondary => 1

instance : Ord Role where
  compare := compareOn rank

instance : Std.TransOrd Role := inferInstanceAs (Std.TransCmp (compareOn rank))

end Role

instance : Std.TransOrd Position :=
  inferInstanceAs (Std.TransCmp (compareLex (compareOn Position.offset)
    (compareLex (compareOn Position.line) (compareOn Position.column))))

instance : Std.TransOrd Span :=
  inferInstanceAs (Std.TransCmp (compareLex (compareOn Span.start) (compareOn Span.stop)))

/-- A highlighted part of the text. -/
structure Highlight where
  span : Span
  role : Role
  label : Option String
deriving DecidableEq, Repr

/-- Highlights are ordered by span, role and label. -/
instance : Ord Highlight where
  compare := compareLex (compareOn Highlight.span)
    (compareLex (compareOn Highlight.role) (compareOn Highlight.label))

instance : Std.TransOrd Highlight :=
  inferInstanceAs (Std.TransCmp (compareLex (compareOn Highlight.span)
    (compareLex (compareOn Highlight.role) (compareOn Highlight.label))))

/-- The kinds of remarks. -/
inductive RemarkKind where
  /-- More about the issue. -/
  | note
  /-- How to solve it. -/
  | help
deriving DecidableEq, Repr

namespace RemarkKind

/-- The name of a kind of remark. -/
def name : RemarkKind → String
  | note => "note"
  | help => "help"

/-- The name of a kind of remark in exact forms. -/
def label : RemarkKind → String
  | note => "Note"
  | help => "Help"

/-- The place of a kind among the kinds. -/
def rank : RemarkKind → Nat
  | note => 0
  | help => 1

instance : Ord RemarkKind where
  compare := compareOn rank

instance : Std.TransOrd RemarkKind := inferInstanceAs (Std.TransCmp (compareOn rank))

end RemarkKind

/-- A further message of a diagnostic. -/
structure Remark where
  kind : RemarkKind
  message : String
deriving DecidableEq, Repr

/-- Remarks are ordered by kind and message. -/
instance : Ord Remark where
  compare := compareLex (compareOn Remark.kind) (compareOn Remark.message)

instance : Std.TransOrd Remark :=
  inferInstanceAs (Std.TransCmp (compareLex (compareOn Remark.kind) (compareOn Remark.message)))

/-! ### Diagnostics -/

/-- A message about a source text. -/
structure Diagnostic where
  severity : Severity
  code : Option ErrorCode
  message : Option String
  /-- A path that the diagnostic is about, for instance that of a file that cannot be read. -/
  path : Option String
  /-- The highlighted parts of the text, in order. -/
  highlights : List Highlight
  remarks : List Remark
deriving DecidableEq, Repr

namespace Diagnostic

/-- The diagnostic of a severity that says nothing yet. -/
def ofSeverity (s : Severity) : Diagnostic := ⟨s, none, none, none, [], []⟩

/-- Say what the matter is. -/
def withMessage (d : Diagnostic) (m : String) : Diagnostic := { d with message := some m }

/-- Give the code. -/
def withCode (d : Diagnostic) (c : ErrorCode) : Diagnostic := { d with code := some c }

/-- Name a path. -/
def withPath (d : Diagnostic) (p : String) : Diagnostic := { d with path := some p }

/-- Highlight a part of the text. -/
def highlight (d : Diagnostic) (h : Highlight) : Diagnostic :=
  { d with highlights := OrderedList.insert h d.highlights }

/-- Highlight and label what the diagnostic is about. -/
def about (d : Diagnostic) (s : Span) (label : String) : Diagnostic :=
  d.highlight ⟨s, .primary, some label⟩

/-- Highlight and label what helps to understand the diagnostic. -/
def beside (d : Diagnostic) (s : Span) (label : String) : Diagnostic :=
  d.highlight ⟨s, .secondary, some label⟩

/-- Add a remark. -/
def remark (d : Diagnostic) (kind : RemarkKind) (m : String) : Diagnostic :=
  { d with remarks := d.remarks ++ [⟨kind, m⟩] }

/-- Add a note. -/
def note (d : Diagnostic) (m : String) : Diagnostic := d.remark .note m

/-- Add a help. -/
def help (d : Diagnostic) (m : String) : Diagnostic := d.remark .help m

/-! ### Order -/

/-- The parts of the path. -/
def pathComponents (d : Diagnostic) : Option (List PathComponent) := d.path.map Path.components

/-- Diagnostics are ordered by path, highlights, remarks, code, message and severity. The highlights
bring them close to the order of the text. -/
instance : Ord Diagnostic where
  compare := compareLex (compareOn pathComponents) (compareLex (compareOn highlights)
    (compareLex (compareOn remarks) (compareLex (compareOn code)
      (compareLex (compareOn message) (compareOn severity)))))

instance : Std.TransOrd Diagnostic :=
  inferInstanceAs (Std.TransCmp (compareLex (compareOn pathComponents)
    (compareLex (compareOn highlights) (compareLex (compareOn remarks) (compareLex (compareOn code)
      (compareLex (compareOn message) (compareOn severity)))))))

end Diagnostic

end Frontend
