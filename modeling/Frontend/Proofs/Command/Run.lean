import Frontend.Command.Run
import Frontend.Proofs.Check.Fault
import Frontend.Proofs.Diagnostic.Batch

/-!
# What a run tells

The passes over a file come to one of few ends (`Session.EndsIn`), and they fail exactly if an error
is among the diagnostics that they report. These are printed in a batch at the end of the run, so
that a run fails exactly if it prints an error, and the status line is written exactly if all passes
that were asked for have succeeded. Its diagnostics and its status line are to be seen on the two
streams (`Outcome.Shows`).
-/

namespace Frontend

/-! ### Ends of passes -/

/-- The event is one of a pass: neither a status line nor a diagnostic. -/
def Event.IsPass : Event → Prop
  | .status _ _ _ => False
  | .diagnostic _ => False
  | _             => True

theorem Event.isPass_append_onlyIf {events : List Event} (h : ∀ x ∈ events, x.IsPass)
    (condition : Bool) {e : Event} (he : e.IsPass) :
    ∀ x ∈ events ++ onlyIf condition e, x.IsPass := by
  intro x hx
  rcases List.mem_append.mp hx with hx | hx
  · exact h x hx
  · rw [onlyIf] at hx
    split at hx
    · exact List.mem_singleton.mp hx ▸ he
    · cases hx

/-- What the passes over a file can come to: a lexical error, the end of lexing if nothing else is
asked for, a syntax error, or a module, whose status line is left out, written or lost. -/
inductive Session.EndsIn (o : Options) (file : SourceFile) (stdoutFault? : Option String)
    (events : List Event) : Session → Prop
  | lexical {e : LexicalError} (hlex : lex file.content = .error e) :
      EndsIn o file stdoutFault? events ⟨events, [e.diagnostic], true⟩
  | lexed {tokens : List Token} (hlex : lex file.content = .ok tokens) (ho : o.lexOnly = true) :
      EndsIn o file stdoutFault? events ⟨events, [], false⟩
  | syntactic {tokens : List Token} {e : SyntaxError} (hlex : lex file.content = .ok tokens)
      (ho : o.lexOnly = false) (hparse : parseModule tokens .standard = .error (.error e)) :
      EndsIn o file stdoutFault? events ⟨events, [e.diagnostic], true⟩
  | quiet {tokens : List Token} {m : Module} (hlex : lex file.content = .ok tokens)
      (ho : o.lexOnly = false) (hparse : parseModule tokens .standard = .ok m)
      (hquiet : o.quiet = true) :
      EndsIn o file stdoutFault? events ⟨events, m.warnings, false⟩
  | written {tokens : List Token} {m : Module} (hlex : lex file.content = .ok tokens)
      (ho : o.lexOnly = false) (hparse : parseModule tokens .standard = .ok m)
      (hquiet : o.quiet = false) (hfault : stdoutFault? = none) :
      EndsIn o file stdoutFault? events
        ⟨events ++ [.status file.name m.name.name true], m.warnings, false⟩
  | lost {tokens : List Token} {m : Module} {reason : String}
      (hlex : lex file.content = .ok tokens) (ho : o.lexOnly = false)
      (hparse : parseModule tokens .standard = .ok m) (hquiet : o.quiet = false)
      (hfault : stdoutFault? = some reason) :
      EndsIn o file stdoutFault? events
        ⟨events ++ [.status file.name m.name.name false],
          m.warnings ++ [statusFailure reason], true⟩

namespace Session

variable (o : Options) (file : SourceFile) (stdoutFault? : Option String)

theorem concluded_endsIn {tokens : List Token} {m : Module} (hlex : lex file.content = .ok tokens)
    (ho : o.lexOnly = false) (hparse : parseModule tokens .standard = .ok m)
    (events : List Event) :
    EndsIn o file stdoutFault? events (concluded o file stdoutFault? events m) := by
  unfold concluded
  split
  · next hquiet => exact .quiet hlex ho hparse hquiet
  · next hquiet =>
    rw [Bool.not_eq_true] at hquiet
    cases stdoutFault? with
    | none => exact .written hlex ho hparse hquiet rfl
    | some reason => exact .lost hlex ho hparse hquiet rfl

theorem exists_endsIn : ∃ events, (∀ x ∈ events, x.IsPass) ∧
    EndsIn o file stdoutFault? events (ofFile o file stdoutFault?) := by
  have hstarted : ∀ x ∈ onlyIf o.timing .timingStarted, x.IsPass :=
    Event.isPass_append_onlyIf (fun _ hx => absurd hx List.not_mem_nil) o.timing trivial
  rw [ofFile, SourceFile.tokens]
  cases hlex : lex file.content with
  | error e => exact ⟨_, hstarted, .lexical hlex⟩
  | ok tokens =>
    have htimed := Event.isPass_append_onlyIf hstarted o.timing (e := .timed .lexing) trivial
    have hlexed := Event.isPass_append_onlyIf htimed o.emitTokens (e := .tokens tokens) trivial
    cases ho : o.lexOnly with
    | true => exact ⟨_, hlexed, .lexed hlex ho⟩
    | false =>
      simp only [Except.mapError, Module.ofTokens, Bool.false_eq_true, if_false]
      cases hparse : parseModule tokens .standard with
      | error x =>
        obtain ⟨e, rfl, -⟩ := exists_syntaxError_of_parseModule (orderly_of_lexWith hlex) hparse
        exact ⟨_, hlexed, .syntactic hlex ho hparse⟩
      | ok m =>
        have htimed := Event.isPass_append_onlyIf hlexed o.timing (e := .timed .parsing) trivial
        have hparsed := Event.isPass_append_onlyIf htimed o.emitTree (e := .tree m) trivial
        exact ⟨_, hparsed, concluded_endsIn o file stdoutFault? hlex ho hparse _⟩

end Session

/-! ### Errors -/

theorem Diagnostic.ne_errorSummary_of_code {d : Diagnostic} (h : d.code.isSome) (n : Nat) :
    d ≠ Batch.errorSummary n := by
  rintro rfl
  cases h

theorem Module.severity_of_mem_warnings {m : Module} {d : Diagnostic} (hd : d ∈ m.warnings) :
    d.severity = .warning := by
  obtain ⟨item, -, rfl⟩ := List.mem_map.mp hd
  rfl

namespace Session

/-- The session fails exactly if it reports an error. Its diagnostics are left to be printed at the
end, where none of them is taken for the summary. -/
structure Accounts (s : Session) : Prop where
  failed_iff : s.failed = true ↔ ∃ d ∈ s.reported, d.severity = .error
  severity_ne_bug : ∀ d ∈ s.reported, d.severity ≠ .bug
  ne_summary : ∀ d ∈ s.reported, ∀ n, d ≠ Batch.errorSummary n
  unprinted : ∀ d, .diagnostic d ∉ s.events

variable {o : Options} {file : SourceFile} {stdoutFault? : Option String} {events : List Event}
  {s : Session}

theorem accounts_of_error {d : Diagnostic} {span : Span} (hd : d.IsErrorAt span)
    (hevents : ∀ d, .diagnostic d ∉ events) : Accounts ⟨events, [d], true⟩ where
  failed_iff := iff_of_true rfl ⟨d, List.mem_cons_self, hd.severity_eq⟩
  severity_ne_bug := by simp [hd.severity_eq]
  ne_summary := by simpa using d.ne_errorSummary_of_code hd.isSome_code
  unprinted := hevents

theorem accounts_of_warnings (m : Module) (hevents : ∀ d, .diagnostic d ∉ events) :
    Accounts ⟨events, m.warnings, false⟩ where
  failed_iff := by
    refine iff_of_false Bool.false_ne_true ?_
    rintro ⟨d, hd, herror⟩
    rw [Module.severity_of_mem_warnings hd] at herror
    cases herror
  severity_ne_bug d hd := by simp [Module.severity_of_mem_warnings hd]
  ne_summary := by
    rintro _ hd n rfl
    cases Module.severity_of_mem_warnings hd
  unprinted := hevents

/-- One more error, which is no summary as it has a note. -/
theorem Accounts.statusFailure {ds : List Diagnostic} {failed : Bool}
    (h : Accounts ⟨events, ds, failed⟩) (reason : String) :
    Accounts ⟨events, ds ++ [statusFailure reason], true⟩ where
  failed_iff := iff_of_true rfl ⟨_, List.mem_append_right _ List.mem_cons_self, rfl⟩
  severity_ne_bug d hd := by
    rcases List.mem_append.mp hd with hd | hd
    · exact h.severity_ne_bug d hd
    · obtain rfl := List.mem_singleton.mp hd
      show Severity.error ≠ .bug
      decide
  ne_summary d hd n := by
    rcases List.mem_append.mp hd with hd | hd
    · exact h.ne_summary d hd n
    · obtain rfl := List.mem_singleton.mp hd
      intro hsummary
      cases congrArg Diagnostic.remarks hsummary
  unprinted := h.unprinted

theorem EndsIn.accounts (h : EndsIn o file stdoutFault? events s)
    (hevents : ∀ x ∈ events, x.IsPass) : s.Accounts := by
  have hprinted (d : Diagnostic) : .diagnostic d ∉ events := hevents (.diagnostic d)
  have hstatus (name module : String) (written : Bool) (d : Diagnostic) :
      .diagnostic d ∉ events ++ [.status name module written] := by
    simp [hprinted]
  cases h with
  | lexical _ => exact accounts_of_error (LexicalError.isErrorAt _) hprinted
  | lexed _ _ => exact ⟨by simp, by simp, by simp, hprinted⟩
  | syntactic _ _ _ => exact accounts_of_error (SyntaxError.isErrorAt _) hprinted
  | quiet _ _ _ _ => exact accounts_of_warnings _ hprinted
  | written _ _ _ _ _ => exact accounts_of_warnings _ (hstatus _ _ _)
  | lost _ _ _ _ _ => exact (accounts_of_warnings _ (hstatus _ _ _)).statusFailure _

/-- The status line is written, or lost, exactly at the end of a run that goes through all passes
and is not quiet. -/
theorem EndsIn.exists_status_iff (h : EndsIn o file stdoutFault? events s)
    (hevents : ∀ x ∈ events, x.IsPass) :
    (∃ name module written, .status name module written ∈ s.events) ↔
      ∃ tokens m, lex file.content = .ok tokens ∧ parseModule tokens .standard = .ok m ∧
        o.lexOnly = false ∧ o.quiet = false := by
  have hnone : ¬ ∃ name module written, .status name module written ∈ events := by
    rintro ⟨_, _, _, hmem⟩
    exact hevents _ hmem
  cases h with
  | lexical hlex => exact iff_of_false hnone (by simp [hlex])
  | lexed hlex ho => exact iff_of_false hnone (by simp [ho])
  | syntactic hlex ho hparse => exact iff_of_false hnone (by simp [hlex, hparse])
  | quiet hlex ho hparse hquiet => exact iff_of_false hnone (by simp [hquiet])
  | written hlex ho hparse hquiet _ =>
    exact iff_of_true ⟨_, _, _, List.mem_append_right _ List.mem_cons_self⟩
      ⟨_, _, hlex, hparse, ho, hquiet⟩
  | lost hlex ho hparse hquiet _ =>
    exact iff_of_true ⟨_, _, _, List.mem_append_right _ List.mem_cons_self⟩
      ⟨_, _, hlex, hparse, ho, hquiet⟩

/-- The session succeeds exactly if every pass does that is asked for, and the status line is not
lost. -/
theorem EndsIn.failed_eq_false_iff (h : EndsIn o file stdoutFault? events s) :
    s.failed = false ↔ ∃ tokens, lex file.content = .ok tokens ∧ (o.lexOnly = true ∨
      ∃ m, parseModule tokens .standard = .ok m ∧ (o.quiet = true ∨ stdoutFault? = none)) := by
  cases h with
  | lexical hlex => simp [hlex]
  | lexed hlex ho => simp [hlex, ho]
  | syntactic hlex ho hparse => simp [hlex, ho, hparse]
  | quiet hlex ho hparse hquiet => simp [hlex, ho, hparse, hquiet]
  | written hlex ho hparse _ hfault => simp [hlex, ho, hparse, hfault]
  | lost hlex ho _ hquiet hfault => simp [hlex, ho, hquiet, hfault]

/-- The only event that may follow those of the passes is the status line, which is written unless
the output stream has a fault. -/
theorem EndsIn.events_eq (h : EndsIn o file stdoutFault? events s) :
    s.events = events ∨
      ∃ name module, s.events = events ++ [.status name module stdoutFault?.isNone] := by
  cases h with
  | lexical _ => exact .inl rfl
  | lexed _ _ => exact .inl rfl
  | syntactic _ _ _ => exact .inl rfl
  | quiet _ _ _ _ => exact .inl rfl
  | written _ _ _ _ hfault => exact .inr ⟨_, _, by rw [hfault]; rfl⟩
  | lost _ _ _ _ hfault => exact .inr ⟨_, _, by rw [hfault]; rfl⟩

end Session

/-! ### Transcripts -/

/-- A run that never fails silently: it fails exactly if it prints an error other than the summary,
and warnings alone do not make it fail. -/
structure Transcript.NeverSilent (run : Transcript) : Prop where
  exit_ne_unreported : run.exit ≠ .unreported
  exit_eq_failure_iff : run.exit = .failure ↔ ∃ d, .diagnostic d ∈ run.events ∧
    d.severity = .error ∧ ∀ n, d ≠ Batch.errorSummary n
  exit_eq_success : (∀ d, .diagnostic d ∈ run.events → d.severity = .warning) →
    run.exit = .success

theorem Exit.ofRun_self (failed : Bool) :
    ofRun failed failed = if failed then .failure else .success := by
  cases failed <;> rfl

theorem Transcript.NeverSilent.of_exit {run : Transcript} (failed : Bool)
    (hexit : run.exit = .ofRun failed failed)
    (hfailed : failed = true ↔ ∃ d, .diagnostic d ∈ run.events ∧ d.severity = .error ∧
      ∀ n, d ≠ Batch.errorSummary n) : run.NeverSilent := by
  rw [Exit.ofRun_self] at hexit
  constructor
  · cases failed <;> simp [hexit]
  · rw [hexit, ← hfailed]
    cases failed <;> simp
  · intro hwarnings
    cases failed with
    | false => exact hexit
    | true =>
      obtain ⟨d, hd, herror, -⟩ := hfailed.mp rfl
      rw [hwarnings d hd] at herror
      cases herror

namespace Session

variable {s : Session}

/-- The batch tells that there are errors exactly if the passes fail. -/
theorem Accounts.hasErrors_eq (h : s.Accounts) :
    (Batch.ofList s.reported).hasErrors = s.failed := by
  rw [Bool.eq_iff_iff, Batch.hasErrors_ofList_iff, h.failed_iff]
  refine exists_congr fun d => and_congr_right fun hd => ?_
  rw [Severity.isError_iff, or_iff_right (h.severity_ne_bug d hd)]

theorem Accounts.mem_events_iff (h : s.Accounts) (d : Diagnostic) :
    .diagnostic d ∈ s.transcript.events ↔ d ∈ (Batch.ofList s.reported).printed := by
  simp [transcript, h.unprinted]

/-- What is reported is printed before the run ends. -/
theorem Accounts.neverSilent (h : s.Accounts) : s.transcript.NeverSilent := by
  apply Transcript.NeverSilent.of_exit s.failed
  · rw [transcript, h.hasErrors_eq]
  · rw [← h.hasErrors_eq, Batch.hasErrors, Bool.not_eq_true', List.isEmpty_eq_false_iff_exists_mem]
    constructor
    -- The batch may hold another error than the one that makes it fail, if they compare equal.
    · rintro ⟨d, hd⟩
      obtain ⟨hreported, hseverity⟩ := Batch.mem_of_mem_errors hd
      have herror := (Severity.isError_iff.mp hseverity).resolve_left
        (h.severity_ne_bug d hreported)
      exact ⟨d, (h.mem_events_iff d).mpr (Batch.mem_printed_of_mem_errors hd), herror,
        h.ne_summary d hreported⟩
    · rintro ⟨d, hd, herror, hsummary⟩
      exact ⟨d, Batch.mem_errors_of_mem_printed ((h.mem_events_iff d).mp hd) herror hsummary⟩

end Session

namespace Transcript

variable (o : Options) (loaded : Except LoadError String) (stdoutFault? : Option String)

/-- The run over a file that is loaded has the transcript of the passes over it. -/
theorem exists_session (content : String) : ∃ events s, (∀ x ∈ events, Event.IsPass x) ∧
    Session.EndsIn o ⟨some (Text.ofBytesLossy o.path), content⟩ stdoutFault? events s ∧
      ofLoaded o (.ok content) stdoutFault? = s.transcript := by
  obtain ⟨events, hevents, hends⟩ :=
    Session.exists_endsIn o ⟨some (Text.ofBytesLossy o.path), content⟩ stdoutFault?
  exact ⟨events, _, hevents, hends, rfl⟩

theorem neverSilent_ofLoaded : (ofLoaded o loaded stdoutFault?).NeverSilent := by
  cases loaded with
  | error e =>
    refine .of_exit true rfl (iff_of_true rfl ?_)
    exact ⟨_, List.mem_cons_self, rfl, Diagnostic.ne_errorSummary_of_code rfl⟩
  | ok content =>
    obtain ⟨events, s, hevents, hends, hrun⟩ := exists_session o stdoutFault? content
    rw [hrun]
    exact (hends.accounts hevents).neverSilent

theorem exists_status_iff :
    (∃ name module written, .status name module written ∈ (ofLoaded o loaded stdoutFault?).events) ↔
      ∃ content tokens m, loaded = .ok content ∧ lex content = .ok tokens ∧
        parseModule tokens .standard = .ok m ∧ o.lexOnly = false ∧ o.quiet = false := by
  cases loaded with
  | error e => simp [ofLoaded]
  | ok content =>
    obtain ⟨events, s, hevents, hends, hrun⟩ := exists_session o stdoutFault? content
    simpa [hrun, Session.transcript] using hends.exists_status_iff hevents

theorem code_eq_zero_iff :
    (ofLoaded o loaded stdoutFault?).exit.code = 0 ↔
      ∃ content tokens, loaded = .ok content ∧ lex content = .ok tokens ∧ (o.lexOnly = true ∨
        ∃ m, parseModule tokens .standard = .ok m ∧ (o.quiet = true ∨ stdoutFault? = none)) := by
  cases loaded with
  | error e => simp [ofLoaded, Exit.ofRun, Exit.code]
  | ok content =>
    obtain ⟨events, s, hevents, hends, hrun⟩ := exists_session o stdoutFault? content
    have hcode : (Exit.ofRun s.failed s.failed).code = 0 ↔ s.failed = false := by
      cases s.failed <;> decide
    rw [hrun, Session.transcript, (hends.accounts hevents).hasErrors_eq, hcode,
      hends.failed_eq_false_iff]
    simp

end Transcript

/-- The events of a run are those of passes, at most one status line, which is written unless the
output stream has a fault, and the diagnostics that are printed, in this order. -/
structure Transcript.Arranged (stdoutFault? : Option String) (passes status : List Event)
    (printed : List Diagnostic) (run : Transcript) : Prop where
  events_eq : run.events = passes ++ status ++ printed.map .diagnostic
  isPass : ∀ x ∈ passes, x.IsPass
  status_eq : status = [] ∨ ∃ name module, status = [.status name module stdoutFault?.isNone]

theorem Transcript.exists_arranged (o : Options) (loaded : Except LoadError String)
    (stdoutFault? : Option String) : ∃ passes status printed,
      (ofLoaded o loaded stdoutFault?).Arranged stdoutFault? passes status printed := by
  cases loaded with
  | error e => exact ⟨[], [], [_], rfl, by simp, .inl rfl⟩
  | ok content =>
    obtain ⟨events, s, hevents, hends, hrun⟩ := exists_session o stdoutFault? content
    rw [hrun, Session.transcript]
    rcases hends.events_eq with hs | ⟨name, module, hs⟩
    · exact ⟨events, [], _, by rw [hs, List.append_nil], hevents, .inl rfl⟩
    · exact ⟨events, _, _, by rw [hs], hevents, .inr ⟨name, module, rfl⟩⟩

theorem Transcript.Arranged.mem_events_iff {stdoutFault? : Option String}
    {passes status : List Event} {printed : List Diagnostic} {run : Transcript}
    (h : run.Arranged stdoutFault? passes status printed) (d : Diagnostic) :
    .diagnostic d ∈ run.events ↔ d ∈ printed := by
  have hpasses : .diagnostic d ∉ passes := h.isPass (.diagnostic d)
  obtain hs | ⟨_, _, hs⟩ := h.status_eq <;> simp [h.events_eq, hpasses, hs]

/-! ### Streams -/

section

variable {α : Type} {as : List α} {f : α → String}

theorem isInfix_join_map {a : α} (h : a ∈ as) (f : α → String) :
    (f a).toList <:+: (String.join (as.map f)).toList := by
  obtain ⟨front, back, rfl⟩ := List.append_of_mem h
  exact ⟨(String.join (front.map f)).toList, (String.join (back.map f)).toList, by simp⟩

theorem join_map_eq_empty (h : ∀ a ∈ as, f a = "") : String.join (as.map f) = "" := by
  rw [List.map_congr_left h, ← String.toList_inj]
  simp

end

theorem Event.IsPass.stdout_eq {x : Event} (h : x.IsPass) (o : Options) : x.stdout o = "" := by
  cases x with
  | status _ _ _ => exact h.elim
  | _ => rfl

/-- What is to be seen of a run that attempts a status line, or none, and prints diagnostics. The
exit code is 1 exactly if an error other than the summary is among them, and 0 otherwise. They end
the error stream, each with an empty line behind it, and whatever the colours, their severities and
messages are there. On the output stream there is the status line, if it is written. -/
structure Outcome.Shows (status : List Event) (printed : List Diagnostic)
    (file : Option SourceFile) (c : ColorChoice) (outcome : Outcome) : Prop where
  exit_eq_zero_or : outcome.exit = 0 ∨ outcome.exit = 1
  exit_eq_one_iff : outcome.exit = 1 ↔
    ∃ d ∈ printed, d.severity = .error ∧ ∀ n, d ≠ Batch.errorSummary n
  exists_stderr_eq : ∃ ahead,
    outcome.stderr = ahead ++ String.join (printed.map fun d => d.format file c ++ "\n\n")
  severity_isInfix : ∀ d ∈ printed, d.severity.name.toList <:+: outcome.stderr.toList
  message_isInfix : ∀ d ∈ printed, ∀ m, d.message = some m → m.toList <:+: outcome.stderr.toList
  checked_isInfix : ∀ name module, status = [.status name module true] →
    "Checked".toList <:+: outcome.stdout.toList
  stdout_eq : ∀ name module, status = [.status name module true] → c.colorizes = false →
    outcome.stdout = "Checked " ++ name ++ " (" ++ module ++ ")\n"
  stdout_eq_empty : (∀ name module, status ≠ [.status name module true]) → outcome.stdout = ""

/-- The error that makes a run fail can be read on the error stream. -/
theorem Outcome.Shows.error_isInfix {status : List Event} {printed : List Diagnostic}
    {file : Option SourceFile} {c : ColorChoice} {outcome : Outcome}
    (h : outcome.Shows status printed file c) (hfailed : outcome.exit = 1) :
    "error".toList <:+: outcome.stderr.toList := by
  obtain ⟨d, hd, herror, -⟩ := h.exit_eq_one_iff.mp hfailed
  have hname := h.severity_isInfix d hd
  rwa [herror] at hname

namespace Transcript

variable {o : Options} {stdoutFault? : Option String} {passes status : List Event}
  {printed : List Diagnostic} {run : Transcript}

theorem NeverSilent.code_eq_zero_or (h : run.NeverSilent) :
    run.exit.code = 0 ∨ run.exit.code = 1 := by
  cases hexit : run.exit with
  | unreported => exact absurd hexit h.exit_ne_unreported
  | success => exact .inl rfl
  | failure => exact .inr rfl

theorem Arranged.code_eq_one_iff (h : run.Arranged stdoutFault? passes status printed)
    (hsilent : run.NeverSilent) : run.exit.code = 1 ↔
      ∃ d ∈ printed, d.severity = .error ∧ ∀ n, d ≠ Batch.errorSummary n := by
  have hfailure : run.exit.code = 1 ↔ run.exit = .failure := by
    cases run.exit <;> simp [Exit.code]
  rw [hfailure, hsilent.exit_eq_failure_iff]
  simp only [h.mem_events_iff]

/-- The output stream has what the status line writes, if there is one. -/
theorem Arranged.join_stdout_eq (h : run.Arranged stdoutFault? passes status printed) :
    String.join (run.events.map (Event.stdout o)) = String.join (status.map (Event.stdout o)) := by
  have hpasses : String.join (passes.map (Event.stdout o)) = "" :=
    join_map_eq_empty fun x hx => (h.isPass x hx).stdout_eq o
  have hprinted : String.join ((printed.map Event.diagnostic).map (Event.stdout o)) = "" := by
    rw [List.map_map]
    exact join_map_eq_empty fun d _ => rfl
  rw [h.events_eq, List.map_append, List.map_append, String.join_append, String.join_append,
    hpasses, hprinted, String.empty_append, String.append_empty]

/-- The error stream ends with the diagnostics. -/
theorem Arranged.join_stderr_eq (h : run.Arranged stdoutFault? passes status printed)
    (file : Option SourceFile) (time : Pass → String) :
    String.join (run.events.map (Event.stderr o file time)) =
      String.join ((passes ++ status).map (Event.stderr o file time)) ++
        String.join (printed.map fun d => d.format file o.color ++ "\n\n") := by
  rw [h.events_eq, List.map_append, String.join_append, List.map_map]
  rfl

theorem Arranged.format_isInfix (h : run.Arranged stdoutFault? passes status printed)
    {d : Diagnostic} (hd : d ∈ printed) (file : Option SourceFile) (time : Pass → String) :
    (d.format file o.color).toList <:+:
      (String.join (run.events.map (Event.stderr o file time))).toList := by
  have hentry := isInfix_join_map hd fun d => d.format file o.color ++ "\n\n"
  rw [String.toList_append] at hentry
  rw [h.join_stderr_eq, String.toList_append]
  exact ((List.prefix_append _ _).isInfix.trans hentry).trans (List.suffix_append _ _).isInfix

theorem Arranged.shows {loaded : Except LoadError String}
    (h : (ofLoaded o loaded stdoutFault?).Arranged stdoutFault? passes status printed)
    (time : Pass → String) :
    (Outcome.ofLoaded o loaded stdoutFault? time).Shows status printed (loadedFile o loaded)
      o.color := by
  have hsilent := neverSilent_ofLoaded o loaded stdoutFault?
  have hstdout {name module : String} (hstatus : status = [.status name module true]) :
      (Outcome.ofLoaded o loaded stdoutFault? time).stdout =
        (statusLine name module).toText o.color := by
    rw [Outcome.ofLoaded, h.join_stdout_eq, hstatus]
    simp [Event.stdout]
  constructor
  · exact hsilent.code_eq_zero_or
  · exact h.code_eq_one_iff hsilent
  · exact ⟨_, h.join_stderr_eq _ time⟩
  · exact fun d hd => (d.severity_isInfix_format _ _).trans (h.format_isInfix hd _ time)
  · exact fun d hd m hm => (d.message_isInfix_format _ _ hm).trans (h.format_isInfix hd _ time)
  · intro name module hstatus
    rw [hstdout hstatus]
    apply Painting.isInfix_toText
    simp [statusLine, Painting.styledText, Painting.styled, Painting.text]
  · intro name module hstatus hc
    rw [hstdout hstatus, Painting.toText_eq_plain hc]
    simp [statusLine, ← String.append_assoc]
  · intro hne
    rw [Outcome.ofLoaded, h.join_stdout_eq]
    obtain hs | ⟨name, module, hs⟩ := h.status_eq
    · rw [hs]
      rfl
    · cases hwritten : stdoutFault?.isNone with
      | true => exact absurd (hwritten ▸ hs) (hne name module)
      | false => simp [hs, hwritten, Event.stdout]

end Transcript

/-! ### The theorem -/

/-- A run over a file, whatever comes of reading the file and of writing the status line, never
fails silently: it fails exactly if an error other than the summary is printed, which stands on the
error stream, and it succeeds only if everything that is asked for does. The status line is
attempted exactly if the file is loaded and holds a module, and neither option keeps it from being
written. -/
theorem Outcome.reported_of_loaded (o : Options) (loaded : Except LoadError String)
    (stdoutFault? : Option String) (time : Pass → String) :
    let run := Transcript.ofLoaded o loaded stdoutFault?
    let outcome := ofLoaded o loaded stdoutFault? time
    run.NeverSilent ∧ outcome.exit = run.exit.code ∧
      (∃ passes status printed, run.Arranged stdoutFault? passes status printed ∧
        outcome.Shows status printed (loadedFile o loaded) o.color) ∧
      (outcome.exit = 1 → "error".toList <:+: outcome.stderr.toList) ∧
      (outcome.exit = 0 ↔ ∃ content tokens, loaded = .ok content ∧ lex content = .ok tokens ∧
        (o.lexOnly = true ∨
          ∃ m, parseModule tokens .standard = .ok m ∧ (o.quiet = true ∨ stdoutFault? = none))) ∧
      ((∃ name module written, .status name module written ∈ run.events) ↔
        ∃ content tokens m, loaded = .ok content ∧ lex content = .ok tokens ∧
          parseModule tokens .standard = .ok m ∧ o.lexOnly = false ∧ o.quiet = false) := by
  intro run outcome
  obtain ⟨passes, status, printed, harranged⟩ :=
    Transcript.exists_arranged o loaded stdoutFault?
  have hshows := harranged.shows time
  exact ⟨Transcript.neverSilent_ofLoaded o loaded stdoutFault?, rfl,
    ⟨passes, status, printed, harranged, hshows⟩, hshows.error_isInfix,
    Transcript.code_eq_zero_iff o loaded stdoutFault?,
    Transcript.exists_status_iff o loaded stdoutFault?⟩

end Frontend
