import Frontend.Command.FileTree
import Frontend.Paint.Painter
import Frontend.Text.Quoted

/-!
# Options

The arguments of the program are read one by one. A value that an option or the path takes is only
looked at when the next option or the end is reached, so that a fault of a later argument may come
before one of the value.
-/

namespace Frontend

/-- What the program is to do with a file. -/
structure Options where
  path : RawText
  quiet : Bool
  color : ColorChoice
  emitTokens : Bool
  emitTree : Bool
  lexOnly : Bool
  timing : Bool
deriving DecidableEq, Repr

namespace Options

/-! ### The command line -/

/-- The options that take no value. -/
inductive Flag where
  | quiet
  | emitTokens
  | emitTree
  | lexOnly
  | timing
  | help
  | version
deriving DecidableEq, Repr

namespace Flag

/-- The options without a value, in order. -/
def all : List Flag := [quiet, emitTokens, emitTree, lexOnly, timing, help, version]

/-- The name of an option behind two hyphens. -/
def name : Flag → String
  | quiet      => "quiet"
  | emitTokens => "emit-tokens"
  | emitTree   => "emit-ast"
  | lexOnly    => "lex-only"
  | timing     => "timing"
  | help       => "help"
  | version    => "version"

/-- The option of a given name. -/
def ofName? (name : String) : Option Flag := all.find? (·.name == name)

/-- The option of a letter behind one hyphen. -/
def ofLetter? (c : Char) : Option Flag :=
  match c with
  | 'q' => some quiet
  | 'h' => some help
  | 'V' => some version
  | _   => none

/-- The form of an option in messages. -/
def display (f : Flag) : String := "--" ++ f.name

end Flag

/-- What the program is asked for. -/
inductive Request where
  | check (o : Options)
  | help
  | version
deriving DecidableEq, Repr

/-- Why the arguments make no sense. -/
inductive UsageError where
  /-- There are no arguments. -/
  | nothingGiven
  | missingPath
  | invalidColor (text : String)
  | invalidUtf8 (text : String)
  | unexpectedArgument (text : String)
  /-- An option or the path lacks its value. -/
  | valueRequired (argument : String)
  | repeated (argument : String)
  /-- An option that takes no value has one. -/
  | unexpectedValue (text argument : String)
deriving DecidableEq, Repr

/-- What the program is for. -/
def about : String := "Check Polarix source files for lexical and syntactic errors"

/-- How the program is called. -/
def usage : String := "Usage: polarix [OPTIONS] <PATH>"

/-- The name and the version of the program. -/
def versionText : String := "polarix 0.0.0\n"

/-- The description of the arguments. -/
def helpText : String :=
  String.intercalate "\n"
    [about,
     "",
     usage,
     "",
     "Arguments:",
     "  <PATH>  The path to a source file",
     "",
     "Options:",
     "  -q, --quiet         Suppress status output from being printed to stdout",
     "      --color <WHEN>  Control when to use color [possible values: auto, never, always]",
     "      --emit-tokens   Print the tokens of the file to stderr",
     "      --emit-ast      Print the abstract syntax tree of the file to stderr",
     "      --lex-only      Halt the execution after lexing",
     "      --timing        Print the execution time of each pass",
     "  -h, --help          Print help",
     "  -V, --version       Print version",
     ""]

/-- The form of the colour option in messages. -/
def colorArgument : String := "--color <WHEN>"

/-- The form of the path in messages. -/
def pathArgument : String := "<PATH>"

/-- The wording of a usage error. Without arguments the program says what it is for. -/
def UsageError.message : UsageError → String
  | .nothingGiven                  => about
  | .missingPath                   => "error: the following required arguments were not provided:"
  | .invalidColor text             =>
    "error: " ++ Text.cite text ++ " is not a valid color choice"
  | .invalidUtf8 text              => "error: " ++ Text.cite text ++ " is not valid UTF-8"
  | .unexpectedArgument text       => "error: unexpected argument '" ++ text ++ "' found"
  | .valueRequired argument        =>
    "error: a value is required for '" ++ argument ++ "' but none was supplied"
  | .repeated argument             =>
    "error: the argument '" ++ argument ++ "' cannot be used multiple times"
  | .unexpectedValue text argument =>
    "error: unexpected value '" ++ text ++ "' for '" ++ argument ++
      "' found; no more were expected"

/-- What is printed on a usage error: its wording and how the program is called. -/
def UsageError.report : UsageError → String
  | .nothingGiven => helpText
  | e             => e.message ++ "\n\n" ++ usage ++ "\n\nFor more information, try '--help'.\n"

/-! ### Reading arguments -/

/-- A value that has not been looked at. -/
inductive Pending where
  /-- The colour option, with its value if there was one. -/
  | color (value : Option RawText)
  | path (value : RawText)
deriving DecidableEq, Repr

/-- The arguments that have been read. -/
structure Given where
  flags : List Flag
  color : Option ColorChoice
  path : Option RawText
  pending : Option Pending
deriving DecidableEq, Repr

namespace Given

/-- No argument has been read. -/
def nothing : Given := ⟨[], none, none, none⟩

/-- Set the colour choice. -/
def setColor (g : Given) (value : RawText) : Except UsageError Given :=
  if g.color.isSome then .error (.repeated colorArgument)
  else match Text.ofBytes? value with
    | none      => .error (.invalidUtf8 (Text.ofBytesLossy value))
    | some text =>
      match ColorChoice.ofName? text with
      | some c => .ok { g with color := some c }
      | none   => .error (.invalidColor text)

/-- Look at the value that has not been looked at, if there is one. -/
def settle (g : Given) : Except UsageError Given :=
  match g.pending with
  | none                       => .ok g
  | some (.color none)         => .error (.valueRequired colorArgument)
  | some (.color (some value)) => { g with pending := none }.setColor value
  | some (.path value)         =>
    if value.isEmpty then .error (.valueRequired pathArgument)
    else .ok { g with pending := none, path := some value }

/-- Set an option that takes no value. -/
def setFlag (g : Given) (f : Flag) : Except UsageError Given := do
  let g ← g.settle
  if g.flags.contains f then .error (.repeated f.display)
  else .ok { g with flags := f :: g.flags }

/-- A path has been given. -/
def hasPath (g : Given) : Bool :=
  g.path.isSome || (match g.pending with
    | some (.path _) => true
    | _              => false)

/-- Read an argument that is not an option. -/
def addValue (g : Given) (value : RawText) : Except UsageError Given := do
  if g.hasPath then .error (.unexpectedArgument (Text.ofBytesLossy value))
  else
    let g ← g.settle
    .ok { g with pending := some (.path value) }

/-- What the arguments ask for, after all of them have been read. -/
def finish (g : Given) : Except UsageError Request := do
  let g ← g.settle
  match g.path with
  | some path =>
    .ok (.check
      { path := path
        quiet := g.flags.contains .quiet
        color := g.color.getD .auto
        emitTokens := g.flags.contains .emitTokens
        emitTree := g.flags.contains .emitTree
        lexOnly := g.flags.contains .lexOnly
        timing := g.flags.contains .timing })
  | none      =>
    if g.flags.isEmpty && g.color.isNone then .error .nothingGiven else .error .missingPath

end Given

/-- A step of reading arguments: more are to be read, or the request is clear. -/
inductive Step where
  | more (g : Given)
  | done (r : Request)
deriving DecidableEq, Repr

/-- Read an option that takes no value. -/
def readFlag (g : Given) (f : Flag) : Except UsageError Step :=
  match f with
  | .help    => do
    let _ ← g.settle
    .ok (.done .help)
  | .version => do
    let _ ← g.settle
    .ok (.done .version)
  | _        => do
    let g ← g.setFlag f
    .ok (.more g)

/-- Read an option behind two hyphens, with the value behind the equals sign if there is one. -/
def readLong (g : Given) (rawName : RawText) (value? : Option RawText) : Except UsageError Step :=
  let unexpected := .error (.unexpectedArgument ("--" ++ Text.ofBytesLossy rawName))
  match Text.ofBytes? rawName with
  | none      => unexpected
  | some name =>
    if name = "color" then do
      let g ← g.settle
      match value? with
      | some value => .more <$> g.setColor value
      | none       => .ok (.more { g with pending := some (.color none) })
    else match Flag.ofName? name, value? with
      | none, _            => unexpected
      | some f, some value => .error (.unexpectedValue (Text.ofBytesLossy value) f.display)
      | some f, none       => readFlag g f

/-- Read the letters behind one hyphen. What is not well-formed is left as a whole. -/
def readShort (g : Given) : List (Option Char) → Except UsageError Step
  | []             => .ok (.more g)
  | none :: rest   =>
    .error (.unexpectedArgument
      ("-" ++ String.ofList ((none :: rest).map fun c => c.getD '\ufffd')))
  | some c :: rest =>
    match Flag.ofLetter? c with
    | none   => .error (.unexpectedArgument ("-" ++ String.singleton c))
    | some f => do
      match ← readFlag g f with
      | .more g => readShort g rest
      | .done r => .ok (.done r)

/-- Read an argument that may be an option. -/
def readArgument (g : Given) (argument : RawText) : Except UsageError Step :=
  match argument with
  | 0x2D :: 0x2D :: body =>
    let name := body.takeWhile (· != 0x3D)
    readLong g name (if name.length < body.length then some (body.drop (name.length + 1)) else none)
  | 0x2D :: b :: body    => readShort g (Text.decode (b :: body))
  | _                    =>
    if g.pending = some (.color none) then
      .ok (.more { g with pending := some (.color (some argument)) })
    else .more <$> g.addValue argument

/-- Read the arguments behind the end of the options. -/
def readValues (g : Given) : List RawText → Except UsageError Request
  | []               => g.finish
  | argument :: rest => do readValues (← g.addValue argument) rest

/-- Read arguments. Two hyphens alone end the options. -/
def readAll (g : Given) : List RawText → Except UsageError Request
  | []               => g.finish
  | argument :: rest =>
    if argument = [0x2D, 0x2D] then readValues g rest
    else do
      match ← readArgument g argument with
      | .more g => readAll g rest
      | .done r => .ok r

/-- What the arguments of the program ask for. -/
def parse (arguments : List RawText) : Except UsageError Request :=
  readAll .nothing arguments

end Options

end Frontend
