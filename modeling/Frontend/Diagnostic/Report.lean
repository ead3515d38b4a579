import Frontend.Diagnostic.Snippet

/-!
# Reports

Diagnostics are reported one by one. They are printed at once, or gathered in a batch that is
printed at its end: first the warnings and then the errors, each in order, without duplicates, and
with a summary of their number.
-/

namespace Frontend

/-- The diagnostics that are gathered, in order and without duplicates. -/
structure Batch where
  warnings : List Diagnostic
  errors : List Diagnostic
deriving DecidableEq, Repr

namespace Batch

/-- Nothing has been reported. -/
def empty : Batch := ⟨[], []⟩

/-- Gather one more diagnostic. -/
def insert (b : Batch) (d : Diagnostic) : Batch :=
  if d.severity.isError then { b with errors := OrderedList.insert d b.errors }
  else { b with warnings := OrderedList.insert d b.warnings }

/-- Gather several diagnostics. -/
def ofList (ds : List Diagnostic) : Batch := ds.foldl insert empty

/-- An error has been reported. -/
def hasErrors (b : Batch) : Bool := !b.errors.isEmpty

/-- The summary of a number of warnings. -/
def warningSummary (n : Nat) : Diagnostic :=
  (Diagnostic.ofSeverity .warning).withMessage
    ("emitted " ++ toString n ++ (if n = 1 then " warning" else " warnings"))

/-- The summary of a number of errors. -/
def errorSummary (n : Nat) : Diagnostic :=
  (Diagnostic.ofSeverity .error).withMessage
    (if n = 1 then "aborting due to previous error"
     else "aborting due to " ++ toString n ++ " previous errors")

/-- Diagnostics and the summary of their number, if there are any. -/
def summarized (summary : Nat → Diagnostic) (ds : List Diagnostic) : List Diagnostic :=
  if ds.isEmpty then [] else ds ++ [summary ds.length]

/-- What is printed at the end of a batch, in order. -/
def printed (b : Batch) : List Diagnostic :=
  summarized warningSummary b.warnings ++ summarized errorSummary b.errors

end Batch

/-! ### Printing -/

namespace Report

/-- A diagnostic as it is printed: its text and an empty line. -/
def entry (file : Option SourceFile) (c : ColorChoice) (d : Diagnostic) : String :=
  d.format file c ++ "\n\n"

/-- Diagnostics as they are printed. -/
def text (file : Option SourceFile) (c : ColorChoice) (ds : List Diagnostic) : String :=
  String.join (ds.map (entry file c))

end Report

/-- What is done with the diagnostics that are reported. -/
inductive Reporter where
  | silent
  | immediate
  | batched
deriving DecidableEq, Repr

namespace Reporter

/-- The diagnostics that are printed after the given ones are reported. -/
def printed (r : Reporter) (ds : List Diagnostic) : List Diagnostic :=
  match r with
  | silent    => []
  | immediate => ds
  | batched   => (Batch.ofList ds).printed

/-- The reporter tells that an error was reported. Only a batch keeps count of errors. -/
def flagsErrors (r : Reporter) (ds : List Diagnostic) : Bool :=
  match r with
  | silent    => false
  | immediate => false
  | batched   => (Batch.ofList ds).hasErrors

end Reporter

end Frontend
