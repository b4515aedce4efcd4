import DialectConversion.Cli.Batch
import DialectConversion.Cli.Usage

/-! A run of the program from its command line to its exit code. What it does outside is done through
the surroundings that it is given: reading and writing files and the standard streams. -/
namespace DialectConversion.Cli
set_option autoImplicit false

/-- What a run does outside. A file operation that fails says why. -/
structure Surroundings (m : Type → Type) where
  /-- The text of a file. -/
  load : String → m (Except String String)
  /-- The text of standard input. -/
  input : m (Except String String)
  /-- Makes a text the content of a file. -/
  save : String → String → m (Except String Unit)
  print : String → m Unit
  printError : String → m Unit
  /-- Findings are shown in colour. -/
  colored : Bool

inductive ExitCode where
  | success
  /-- Some input was not converted. -/
  | failure
  /-- The command line makes no sense. -/
  | usage
  /-- The settings, or a file, cannot be used. -/
  | setup
  deriving DecidableEq

def ExitCode.number : ExitCode → Nat
  | success => 0
  | failure => 1
  | usage => 2
  | setup => 66

/-- The settings with the converters of the command line left out, checked against the names of the
converters there are. -/
def checkedConfig (config : Config) (disabled : List String) : Except String Config :=
  let config := disabled.foldl Config.disabling config
  let known := Converter.standard.map fun c => c.name
  match config.disabledConverters.find? fun name => !known.contains name with
  | some name =>
    .error ("unknown converter '" ++ name ++ "' (available: " ++ Text.joined ", " known ++ ")")
  | none => .ok config

section
variable {m : Type → Type} [Monad m] (world : Surroundings m)

/-- The conversion that a run is set up with. -/
def setUp (o : Options) : m (Except String Conversion) := do
  let config ← match o.config? with
    | none => pure (.ok {})
    | some path => do
      match ← world.load path with
      | .error reason => pure (.error ("Failed to read config file: " ++ path ++ ": " ++ reason))
      | .ok text =>
        pure ((Config.ofJson text).mapError fun fault =>
          "Failed to parse config file: " ++ path ++ ": " ++ fault.message text)
  pure do
    let checked ← checkedConfig (← config) o.disabledConverters
    (Conversion.ofConfig checked).mapError fun e =>
      "Failed to build converter registry: " ++ e.message

/-- The files as inputs. The first one that cannot be read ends it. -/
def loadFiles : List String → m (Except String (List Input))
  | [] => pure (.ok [])
  | path :: rest => do
    match ← world.load path with
    | .error reason => pure (.error ("Failed to read file: " ++ path ++ ": " ++ reason))
    | .ok content => pure ((← loadFiles rest).map fun inputs => ⟨path, content⟩ :: inputs)

/-- The inputs of a run: its files, or standard input where there are none. -/
def loadInputs (o : Options) : m (Except String (List Input)) := do
  if o.files.isEmpty then
    match ← world.input with
    | .error reason => pure (.error ("Failed to read from stdin: " ++ reason))
    | .ok content => pure (.ok [⟨"<stdin>", content⟩])
  else loadFiles world o.files

/-- Writes a report to its file, or to standard output with a line break at its end. -/
def deliver (o : Options) (report : String) : m (Except String Unit) := do
  match o.output? with
  | some path =>
    pure ((← world.save path report).mapError fun reason =>
      "Failed to write to " ++ path ++ ": " ++ reason)
  | none => do
    world.print (if report.endsWith "\n" then report else report ++ "\n")
    pure (.ok ())

/-- Reports what keeps a run from being set up. -/
def refuse (message : String) : m ExitCode := do
  world.printError (errorLine message)
  pure .setup

/-- Converts one more input of a batch. One that does not convert is reported at once. -/
def convertNext (cv : Conversion) (format : InputFormat) (p : Progress) (i : Input) : m Progress := do
  match convertContent cv format i.content with
  | .ok document => pure { p with converted := p.converted ++ [⟨i.name, document⟩] }
  | .error e =>
    world.printError (errorLine (i.name ++ ": " ++ e.message))
    pure { p with failed := true }

/-- Prints the findings on converted inputs, unless they are not wanted. -/
def printFindings (o : Options) (converted : List ConvertedInput) : m Unit :=
  if o.quiet then pure () else world.printError (Report.findings world.colored converted)

/-- Delivers the report on converted inputs, if there are any. -/
def deliverReport (o : Options) (converted : List ConvertedInput) : m (Except String Unit) :=
  if converted.isEmpty then pure (.ok ()) else deliver world o (o.report converted)

/-- Converts the inputs one after another and delivers the report on those that convert. The result tells
whether there were others. -/
def runBatch (cv : Conversion) (o : Options) (inputs : List Input) : m (Except String Bool) := do
  let p ← inputs.foldlM (convertNext world cv o.input) {}
  printFindings world o p.converted
  pure ((← deliverReport world o p.converted).map fun () => p.failed)

/-- A run that is set up. -/
def runPrepared (cv : Conversion) (o : Options) : m ExitCode := do
  match ← loadInputs world o with
  | .error message => refuse world message
  | .ok inputs =>
    match ← runBatch world cv o inputs with
    | .error message => refuse world message
    | .ok failed => pure (if failed then .failure else .success)

/-- A run with its options. -/
def runWith (o : Options) : m ExitCode := do
  match ← setUp world o with
  | .error message => refuse world message
  | .ok cv => runPrepared world cv o

/-- A run with its command line. -/
def run (words : List String) : m ExitCode := do
  match Options.ofWords words with
  | .ok o => runWith world o
  | .error (.help long) => do
    world.print (if long then longHelp else shortHelp)
    pure .success
  | .error .version => do
    world.print versionText
    pure .success
  | .error (.usage e) => do
    world.printError ("error: " ++ e.message ++ "\n\nFor more information, try '--help'.\n")
    pure .usage

end
end DialectConversion.Cli
