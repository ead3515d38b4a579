import Frontend.Command.Duration
import Frontend.Command.Run

/-!
# The program

The arguments say which file to check. Everything that the program writes, and its exit code, is an
`Outcome`; here the file is read, the passes are timed, and the outcome is written.
-/

namespace Frontend.Program

/-- The number of a failure of the operating system. Some are told with their sign changed. -/
def osNumber (code : UInt32) : UInt32 := if code < 0x80000000 then code else 0 - code

/-- The wording of a failure of the operating system. -/
def osReason (code : UInt32) (details : String) : String :=
  details ++ " (os error " ++ toString (osNumber code) ++ ")"

/-- Why a file cannot be read. -/
def loadError : IO.Error → LoadError
  | .noFileOrDirectory _ _ _          => .notFound
  | .permissionDenied _ code details  => .other (osReason code details)
  | .inappropriateType _ code details =>
    if osNumber code = 21 then .isDirectory
    else if osNumber code = 20 then .notDirectory
    else .other (osReason code details)
  | e                                 => .other (toString e)

/-- Why a text cannot be written. -/
def writeReason : IO.Error → String
  | .resourceExhausted _ code details => osReason code details
  | .resourceVanished code details    => osReason code details
  | .hardwareFault code details       => osReason code details
  | e                                 => toString e

/-- Read a file as text. -/
def load (path : RawText) : IO (Except LoadError String) := do
  match ← (IO.FS.readBinFile (Text.ofBytesLossy path)).toBaseIO with
  | .ok content => return LoadError.decode content.toList
  | .error e    => return .error (loadError e)

/-- Run a pass, and tell how long it takes. -/
def timed {α : Type} (pass : IO α) : IO (α × Duration) := do
  let started ← IO.monoNanosNow
  let result ← pass
  let ended ← IO.monoNanosNow
  return (result, ⟨ended - started⟩)

/-- Run the passes over a text, and tell how long each of them takes. -/
def passTimes (text : String) : IO (Pass → String) := do
  let (tokens, lexing) ← timed <| IO.lazyPure fun _ => (SourceFile.mk none text).tokens
  let (_, parsing) ← timed <| IO.lazyPure fun _ =>
    (tokens.toOption.map fun ts => (parseModule ts .standard).isOk).getD false
  return fun
    | .lexing  => lexing.display
    | .parsing => parsing.display

/-- Write what a run writes to the output stream, unless that fails. -/
def writeOutput (text : String) : IO (Option String) := do
  let stdout ← IO.getStdout
  match ← (do stdout.putStr text; stdout.flush : IO Unit).toBaseIO with
  | .ok _    => return none
  | .error e => return some (writeReason e)

/-- Run the program. -/
def run (arguments : List RawText) : IO UInt32 := do
  let request := Options.parse arguments
  let (loaded, time) ← match request with
    | .ok (.check o) => do
      let loaded ← load o.path
      let text := loaded.toOption.getD ""
      pure (loaded, ← if o.timing then passTimes text else pure fun _ => "")
    | _              => pure (Except.error .notFound, fun _ => "")
  let outcome (fault? : Option String) : Outcome :=
    Outcome.ofRequest request (fun _ => loaded) fault? time
  let outcome := outcome (← writeOutput (outcome none).stdout)
  IO.eprint outcome.stderr
  return outcome.exit.toUInt32

end Frontend.Program

/-- Run the program with the given arguments. -/
def main (arguments : List String) : IO UInt32 :=
  Frontend.Program.run (arguments.map fun a => a.toUTF8.toList)
