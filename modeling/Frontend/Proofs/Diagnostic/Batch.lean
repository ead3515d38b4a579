import Frontend.Diagnostic.Report
import Frontend.Proofs.Diagnostic.Order
import Frontend.Proofs.Diagnostic.OrderedList
import Frontend.Proofs.Paint.Plain
import Mathlib.Data.List.Basic
import Mathlib.Tactic.Tauto

/-!
# What a batch reports

A batch gathers the warnings and the errors among the diagnostics that are reported, each in order.
There is one batch that does so (`Batch.Gathers`), and what is printed at its end follows from it
alone: the order and the multiplicity of the reports make no difference.
-/

namespace Frontend

open OrderedList (Faithful Increasing)

theorem Severity.isError_iff {s : Severity} : s.isError ↔ s = .bug ∨ s = .error := by
  cases s <;> decide

theorem Severity.isError_eq_false_iff {s : Severity} : s.isError = false ↔ s = .warning := by
  cases s <;> decide

/-! ### Gathering -/

namespace Batch

variable {b b' : Batch} {ds es : List Diagnostic}

/-- Gathering more diagnostics gathers the warnings and the errors among them apart. -/
theorem foldl_insert (b : Batch) (ds : List Diagnostic) :
    ds.foldl insert b =
      ⟨OrderedList.insertAll b.warnings (ds.filter fun d => !d.severity.isError),
        OrderedList.insertAll b.errors (ds.filter (·.severity.isError))⟩ := by
  induction ds generalizing b with
  | nil => rfl
  | cons d ds ih =>
    rw [List.foldl_cons, ih]
    by_cases hd : d.severity.isError
    · simp [insert, hd, OrderedList.insertAll]
    · simp [insert, hd, OrderedList.insertAll]

theorem ofList_eq (ds : List Diagnostic) :
    ofList ds = ⟨OrderedList.ofList (ds.filter fun d => !d.severity.isError),
      OrderedList.ofList (ds.filter (·.severity.isError))⟩ :=
  foldl_insert empty ds

/-- The batch holds the warnings and the errors among the diagnostics, each of them in order. -/
structure Gathers (b : Batch) (ds : List Diagnostic) : Prop where
  warnings_increasing : Increasing b.warnings
  errors_increasing : Increasing b.errors
  mem_warnings_iff : ∀ d, d ∈ b.warnings ↔ d ∈ ds ∧ d.severity = .warning
  mem_errors_iff : ∀ d, d ∈ b.errors ↔ d ∈ ds ∧ (d.severity = .bug ∨ d.severity = .error)

theorem gathers_ofList (h : Faithful ds) : (ofList ds).Gathers ds := by
  rw [ofList_eq]
  constructor
  · exact OrderedList.increasing_ofList _
  · exact OrderedList.increasing_ofList _
  · intro d
    rw [OrderedList.mem_ofList_iff (h.filter _), List.mem_filter, Bool.not_eq_true',
      Severity.isError_eq_false_iff]
  · intro d
    rw [OrderedList.mem_ofList_iff (h.filter _), List.mem_filter, Severity.isError_iff]

/-- The same diagnostics are gathered in one way. -/
theorem Gathers.unique (h : b.Gathers ds) (h' : b'.Gathers es) (hmem : ∀ d, d ∈ ds ↔ d ∈ es) :
    b = b' := by
  have hwarnings : b.warnings = b'.warnings := by
    refine h.warnings_increasing.eq_of_mem_iff h'.warnings_increasing fun d => ?_
    rw [h.mem_warnings_iff, h'.mem_warnings_iff, hmem]
  have herrors : b.errors = b'.errors := by
    refine h.errors_increasing.eq_of_mem_iff h'.errors_increasing fun d => ?_
    rw [h.mem_errors_iff, h'.mem_errors_iff, hmem]
  cases b
  cases b'
  rw [mk.injEq]
  exact ⟨hwarnings, herrors⟩

theorem Gathers.hasErrors_iff (h : b.Gathers ds) :
    b.hasErrors ↔ ∃ d ∈ ds, d.severity = .bug ∨ d.severity = .error := by
  rw [hasErrors, Bool.not_eq_true', List.isEmpty_eq_false_iff_exists_mem]
  simp only [h.mem_errors_iff]

/-- However diagnostics compare, a batch has errors if one of them is reported. -/
theorem hasErrors_ofList_iff : (ofList ds).hasErrors ↔ ∃ d ∈ ds, d.severity.isError := by
  rw [hasErrors, ofList_eq]
  simp [OrderedList.ofList_eq_nil_iff]

theorem mem_summarized_iff {summary : Nat → Diagnostic} {d : Diagnostic} :
    d ∈ summarized summary ds ↔ d ∈ ds ∨ ds ≠ [] ∧ d = summary ds.length := by
  rw [summarized]
  cases ds with
  | nil => simp
  | cons e ds => simp [or_assoc]

/-- The errors that a batch prints, its summary apart, are some of those that are reported. -/
theorem mem_errors_of_mem_printed {d : Diagnostic} (hd : d ∈ (ofList ds).printed)
    (herror : d.severity = .error) (hsummary : ∀ n, d ≠ errorSummary n) :
    d ∈ (ofList ds).errors := by
  rcases List.mem_append.mp hd with hd | hd
  · rcases mem_summarized_iff.mp hd with hd | ⟨-, rfl⟩
    · rw [ofList_eq] at hd
      have hwarning := (List.mem_filter.mp (OrderedList.mem_of_mem_ofList hd)).2
      rw [herror] at hwarning
      cases hwarning
    · cases herror
  · rcases mem_summarized_iff.mp hd with hd | ⟨-, hd⟩
    · exact hd
    · exact absurd hd (hsummary _)

theorem mem_printed_of_mem_errors {d : Diagnostic} (hd : d ∈ b.errors) : d ∈ b.printed :=
  List.mem_append_right _ (mem_summarized_iff.mpr (.inl hd))

theorem mem_of_mem_errors {d : Diagnostic} (hd : d ∈ (ofList ds).errors) :
    d ∈ ds ∧ d.severity.isError := by
  rw [ofList_eq] at hd
  exact List.mem_filter.mp (OrderedList.mem_of_mem_ofList hd)

end Batch

/-! ### Printing -/

namespace Diagnostic

variable (d : Diagnostic) (file : Option SourceFile) (c : ColorChoice)

/-- The name of the severity stands in the text. -/
theorem severity_isInfix_format : d.severity.name.toList <:+: (d.format file c).toList := by
  apply Painting.isInfix_toText
  simp [painting, headline, Painting.styledText, Painting.styled, Painting.text]

/-- The message stands in the text. -/
theorem message_isInfix_format {m : String} (h : d.message = some m) :
    m.toList <:+: (d.format file c).toList := by
  apply Painting.isInfix_toText
  simp [painting, headline, h, Painting.styledText, Painting.styled, Painting.text]

/-- Without colours, the text of the diagnostic is a line of a title and a message, and these stand
in it with colours as well. -/
structure ReadsAs (title message : String) (d : Diagnostic) : Prop where
  title_isInfix : ∀ file c, title.toList <:+: (d.format file c).toList
  message_isInfix : ∀ file c, message.toList <:+: (d.format file c).toList
  format_eq : ∀ file c, c.colorizes = false → d.format file c = title ++ ": " ++ message

/-- A diagnostic that has a severity and a message, and nothing else. -/
theorem readsAs_withMessage (s : Severity) (m : String) :
    ReadsAs s.name m ((ofSeverity s).withMessage m) where
  title_isInfix := severity_isInfix_format ((ofSeverity s).withMessage m)
  message_isInfix file c :=
    message_isInfix_format ((ofSeverity s).withMessage m) file c rfl
  format_eq file c hc := by
    have hsnippets : ((ofSeverity s).withMessage m).snippets Text.width file = [] := by
      cases file <;> rfl
    rw [format, Painting.toText_eq_plain hc, painting, hsnippets]
    simp [headline, pathRow, withMessage, ofSeverity, String.append_assoc]

end Diagnostic

namespace Batch

variable {file : Option SourceFile} {c : ColorChoice}

theorem summarized_eq (summary : Nat → Diagnostic) (ds : List Diagnostic) :
    summarized summary ds = ds ++ if ds = [] then [] else [summary ds.length] := by
  cases ds <;> rfl

/-- The text of diagnostics, each with an empty line behind it, and, if there are any, of the
summary of their number. -/
def summarizedText (file : Option SourceFile) (c : ColorChoice) (summary : Nat → Diagnostic)
    (ds : List Diagnostic) : String :=
  String.join (ds.map fun d => d.format file c ++ "\n\n") ++
    if ds = [] then "" else (summary ds.length).format file c ++ "\n\n"

theorem text_summarized (summary : Nat → Diagnostic) (ds : List Diagnostic) :
    Report.text file c (summarized summary ds) = summarizedText file c summary ds := by
  rw [summarized_eq, Report.text, List.map_append, String.join_append, summarizedText]
  congr 1
  split
  · rfl
  · simp [Report.entry]

/-- The diagnostics are those that are printed at the end of the batch: the warnings and then the
errors, each with the summary of their number if there are any. Their text has an empty line behind
each of them, and the summaries tell the exact numbers. -/
structure PrintedAs (b : Batch) (printed : List Diagnostic) : Prop where
  printed_eq : printed =
    b.warnings ++ (if b.warnings = [] then [] else [warningSummary b.warnings.length]) ++
      (b.errors ++ if b.errors = [] then [] else [errorSummary b.errors.length])
  text_eq : ∀ file c, Report.text file c printed =
    summarizedText file c warningSummary b.warnings ++ summarizedText file c errorSummary b.errors
  warnings_told : (warningSummary b.warnings.length).ReadsAs "warning"
    ("emitted " ++ toString b.warnings.length ++
      if b.warnings.length = 1 then " warning" else " warnings")
  errors_told : (errorSummary b.errors.length).ReadsAs "error"
    (if b.errors.length = 1 then "aborting due to previous error"
     else "aborting due to " ++ toString b.errors.length ++ " previous errors")

theorem printedAs_printed (b : Batch) : b.PrintedAs b.printed where
  printed_eq := by rw [printed, summarized_eq, summarized_eq]
  text_eq file c := by
    rw [printed, Report.text, List.map_append, String.join_append]
    exact congrArg₂ _ (text_summarized _ _) (text_summarized _ _)
  warnings_told := Diagnostic.readsAs_withMessage .warning _
  errors_told := Diagnostic.readsAs_withMessage .error _

end Batch

/-! ### The theorem -/

/-- Of the same diagnostics, in whatever order and however often they are reported, there is one
ordered list, and a batch of them prints the same and tells in the same way whether there are
errors. It prints the warnings and then the errors, each in order and with the summary of their
number. -/
theorem reports_of_mem_iff {ds es : List Diagnostic} (hfaithful : Faithful ds)
    (hmem : ∀ d, d ∈ ds ↔ d ∈ es) :
    OrderedList.ofList ds = OrderedList.ofList es ∧ Increasing (OrderedList.ofList ds) ∧
      (∀ d, d ∈ OrderedList.ofList ds ↔ d ∈ ds) ∧
      ∃ b : Batch, b.Gathers ds ∧
        (∀ reports ∈ [ds, es], b.PrintedAs (Reporter.batched.printed reports)) ∧
        ∀ reports ∈ [ds, es],
          (Reporter.batched.flagsErrors reports ↔
            ∃ d ∈ ds, d.severity = .bug ∨ d.severity = .error) := by
  have hfaithful' : Faithful es :=
    fun d hd e he => hfaithful d ((hmem d).mpr hd) e ((hmem e).mpr he)
  have hgathers := Batch.gathers_ofList hfaithful
  have hbatch : Batch.ofList es = Batch.ofList ds :=
    (Batch.gathers_ofList hfaithful').unique hgathers fun d => (hmem d).symm
  have hsame : ∀ reports ∈ [ds, es], Batch.ofList reports = Batch.ofList ds := by
    intro reports hreports
    rcases List.mem_pair.mp hreports with rfl | rfl
    · rfl
    · exact hbatch
  refine ⟨OrderedList.ofList_eq_of_mem_iff hfaithful hmem, OrderedList.increasing_ofList ds,
    fun d => OrderedList.mem_ofList_iff hfaithful, Batch.ofList ds, hgathers, ?_, ?_⟩
  · intro reports hreports
    rw [Reporter.printed, hsame reports hreports]
    exact Batch.printedAs_printed _
  · intro reports hreports
    rw [Reporter.flagsErrors, hsame reports hreports, hgathers.hasErrors_iff]

/-- Two warnings, one of which is reported twice, and an error. -/
theorem reports_of_mem_iff_twice :
    let v := (Diagnostic.ofSeverity .warning).about ⟨⟨2, 0, 2⟩, ⟨3, 0, 3⟩⟩ "skipped"
    let w := (Diagnostic.ofSeverity .warning).about ⟨⟨9, 1, 0⟩, ⟨12, 1, 3⟩⟩ "skipped"
    let e := ((Diagnostic.ofSeverity .error).withCode .invalidImport).withMessage "unknown"
    Faithful [w, e, v, w] ∧ (∀ d, d ∈ [w, e, v, w] ↔ d ∈ [v, w, e]) ∧
      OrderedList.ofList [w, e, v, w] = [e, v, w] ∧
      (∀ reports ∈ [[w, e, v, w], [v, w, e]], Reporter.batched.printed reports =
        [v, w, Batch.warningSummary 2, e, Batch.errorSummary 1]) ∧
      Report.text none .never (Reporter.batched.printed [w, e, v, w]) =
        "warning\n\nwarning\n\nwarning: emitted 2 warnings\n\n" ++
          "error[E013]: unknown\n\nerror: aborting due to previous error\n\n" := by
  intro v w e
  have hpath : ∀ d ∈ [w, e, v, w], d.path = none := by decide
  have hfaithful : Faithful [w, e, v, w] := fun d hd d' hd' heq =>
    Diagnostic.eq_of_compare heq ((hpath d hd).trans (hpath d' hd').symm)
  have hmem (d : Diagnostic) : d ∈ [w, e, v, w] ↔ d ∈ [v, w, e] := by
    simp only [List.mem_cons, List.not_mem_nil, or_false]
    tauto
  have hbatch : Batch.ofList [w, e, v, w] = ⟨[v, w], [e]⟩ := by decide +kernel
  obtain ⟨-, -, -, b, hgathers, hprinted, -⟩ := reports_of_mem_iff hfaithful hmem
  obtain rfl : b = ⟨[v, w], [e]⟩ := by
    rw [← hbatch]
    exact hgathers.unique (Batch.gathers_ofList hfaithful) fun _ => Iff.rfl
  refine ⟨hfaithful, hmem, by decide +kernel, fun reports hreports => ?_, ?_⟩
  · exact (hprinted reports hreports).printed_eq
  · rw [(hprinted _ List.mem_cons_self).text_eq]
    decide +kernel

end Frontend
