import Frontend.Check
import Frontend.Command.Options
import Frontend.Tree.Outline

/-!
# Running the program

A run goes through the passes of a check and leaves a transcript: what was written where, in order,
and how the run ended. The diagnostics of the passes come at the end, in a batch.
-/

namespace Frontend

/-! ### Transcripts -/

/-- The passes of a check. -/
inductive Pass where
  | lexing
  | parsing
deriving DecidableEq, Repr

/-- The name of a pass. -/
def Pass.name : Pass → String
  | .lexing  => "Lexing"
  | .parsing => "Parsing"

/-- Something that a run writes. -/
inductive Event where
  /-- The headline of the execution times. -/
  | timingStarted
  | timed (pass : Pass)
  | tokens (ts : List Token)
  | tree (m : Module)
  /-- The line that tells that a module is fine, and whether it could be written. -/
  | status (file : String) (module : String) (written : Bool)
  | diagnostic (d : Diagnostic)
deriving Repr

/-- How a run ends. -/
inductive Exit where
  | success
  | failure
  /-- The run failed although no error was reported. -/
  | unreported
deriving DecidableEq, Repr

/-- The exit code of an end. -/
def Exit.code : Exit → Nat
  | .success    => 0
  | .failure    => 1
  | .unreported => 101

/-- What a run wrote, and how it ended. -/
structure Transcript where
  events : List Event
  exit : Exit
deriving Repr

/-! ### Passes -/

/-- What the passes wrote, the diagnostics that they reported, and whether they failed. -/
structure Session where
  events : List Event
  reported : List Diagnostic
  failed : Bool
deriving Repr

/-- The events that are only of interest under a condition. -/
def onlyIf (condition : Bool) (e : Event) : List Event := if condition then [e] else []

/-- The error of a status line that could not be written. -/
def statusFailure (reason : String) : Diagnostic :=
  ((Diagnostic.ofSeverity .error).withMessage "could not write the status to stdout").note reason

/-- The error of a file that could not be read. -/
def loadFailure (path : String) (e : LoadError) : Diagnostic :=
  ((((Diagnostic.ofSeverity .error).withCode .loadFailure).withMessage
    ("could not load the file " ++ Text.cite path)).withPath path).note e.message

/-- The end of a session: the module is fine, and the status line is written, unless there is a
reason why it cannot be. -/
def Session.concluded (o : Options) (file : SourceFile) (stdoutFault? : Option String)
    (events : List Event) (m : Module) : Session :=
  if o.quiet then ⟨events, m.warnings, false⟩
  else match stdoutFault? with
    | none        => ⟨events ++ [.status file.name m.name.name true], m.warnings, false⟩
    | some reason =>
      ⟨events ++ [.status file.name m.name.name false], m.warnings ++ [statusFailure reason], true⟩

/-- Go through the passes over a file. -/
def Session.ofFile (o : Options) (file : SourceFile) (stdoutFault? : Option String) : Session :=
  let started := onlyIf o.timing .timingStarted
  match file.tokens with
  | .error d => ⟨started, [d], true⟩
  | .ok ts   =>
    let lexed := started ++ onlyIf o.timing (.timed .lexing) ++ onlyIf o.emitTokens (.tokens ts)
    if o.lexOnly then ⟨lexed, [], false⟩
    else match Module.ofTokens ts .standard with
      | .error d => ⟨lexed, [d], true⟩
      | .ok m    =>
        Session.concluded o file stdoutFault?
          (lexed ++ onlyIf o.timing (.timed .parsing) ++ onlyIf o.emitTree (.tree m)) m

/-- The end of a run. -/
def Exit.ofRun (failed reported : Bool) : Exit :=
  if failed && !reported then .unreported
  else if reported then .failure
  else .success

/-- The transcript of a session: its events, and the batch of its diagnostics. -/
def Session.transcript (s : Session) : Transcript :=
  let batch := Batch.ofList s.reported
  ⟨s.events ++ batch.printed.map .diagnostic, .ofRun s.failed batch.hasErrors⟩

/-- Check the file that was loaded, or report why it was not. -/
def Transcript.ofLoaded (o : Options) (loaded : Except LoadError String)
    (stdoutFault? : Option String) : Transcript :=
  let path := Text.ofBytesLossy o.path
  match loaded with
  | .error e    => ⟨[.diagnostic (loadFailure path e)], .ofRun true true⟩
  | .ok content => (Session.ofFile o ⟨some path, content⟩ stdoutFault?).transcript

/-! ### Text -/

open Painting

/-- A line for each token: its span, category and payload. -/
def tokenLine (t : Token) : Painting :=
  styledText (.bright .black) (t.span.inspect ++ " ") ++
    styledText (.bright .cyan) t.kind.category.name ++
    (t.kind.payload?.map fun p => text (" " ++ Text.quoted p)).getD [] ++ text "\n"

/-- The name of a pass and the room up to its execution time. -/
def passLabel (p : Pass) : String := "  " ++ p.name ++ Text.spaces (30 - p.name.length)

/-- The line that tells that a module is fine. -/
def statusLine (file module : String) : Painting :=
  styledText (Style.bright .green).strong "Checked" ++
    text (" " ++ file ++ " (" ++ module ++ ")\n")

/-- What an event writes to the error stream. The execution times of passes are given. -/
def Event.stderr (o : Options) (file : Option SourceFile) (time : Pass → String) : Event → String
  | .timingStarted => "Execution times by pass:\n"
  | .timed p       => passLabel p ++ time p ++ "\n"
  | .tokens ts     => Painting.toText (ts.flatMap tokenLine) o.color
  | .tree m        => Painting.toText (Outline.ofModule 0 m ++ text "\n") o.color
  | .status _ _ _  => ""
  | .diagnostic d  => Report.entry file o.color d

/-- What an event writes to the output stream. -/
def Event.stdout (o : Options) : Event → String
  | .status file module true => (statusLine file module).toText o.color
  | _                        => ""

/-! ### The program -/

/-- All that a run of the program writes, and its exit code. -/
structure Outcome where
  exit : Nat
  stdout : String
  stderr : String
deriving DecidableEq, Repr

/-- The file that diagnostics quote. -/
def loadedFile (o : Options) : Except LoadError String → Option SourceFile
  | .ok content => some ⟨some (Text.ofBytesLossy o.path), content⟩
  | .error _    => none

/-- Check the file that was loaded with the given options. -/
def Outcome.ofLoaded (o : Options) (loaded : Except LoadError String)
    (stdoutFault? : Option String) (time : Pass → String) : Outcome :=
  let transcript := Transcript.ofLoaded o loaded stdoutFault?
  { exit := transcript.exit.code
    stdout := String.join (transcript.events.map (Event.stdout o))
    stderr := String.join (transcript.events.map (Event.stderr o (loadedFile o loaded) time)) }

/-- A text for the output stream, which is lost if the stream has a fault. -/
def Outcome.printed (stdoutFault? : Option String) (text : String) : Outcome :=
  ⟨0, if stdoutFault?.isSome then "" else text, ""⟩

/-- Answer what the arguments ask for. Files are read with the given function. -/
def Outcome.ofRequest (request : Except Options.UsageError Options.Request)
    (load : RawText → Except LoadError String) (stdoutFault? : Option String)
    (time : Pass → String) : Outcome :=
  match request with
  | .error e       => ⟨2, "", e.report⟩
  | .ok .help      => Outcome.printed stdoutFault? Options.helpText
  | .ok .version   => Outcome.printed stdoutFault? Options.versionText
  | .ok (.check o) => Outcome.ofLoaded o (load o.path) stdoutFault? time

/-- Run the program with arguments in a directory. -/
def Outcome.ofArguments (arguments : List RawText) (tree : FileTree)
    (stdoutFault? : Option String) (time : Pass → String) : Outcome :=
  Outcome.ofRequest (Options.parse arguments) tree.load stdoutFault? time

end Frontend
