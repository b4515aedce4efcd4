import DialectConversion.Text.Basic

/-! The command line. Options and files mix; two dashes end the options. An option with a value takes
it from the rest of its own word or from the next word; letters of options without values may stand
together behind one dash. -/
namespace DialectConversion.Cli
set_option autoImplicit false

/-- What the input holds. -/
inductive InputFormat where
  | sql
  | json
  deriving DecidableEq

/-- How the output is written. -/
inductive OutputFormat where
  | sql
  | json
  | tree
  deriving DecidableEq

/-- What a run is asked to do. -/
structure Options where
  files : List String := []
  input : InputFormat := .sql
  format : OutputFormat := .sql
  disabledConverters : List String := []
  config? : Option String := none
  output? : Option String := none
  quiet : Bool := false
  compact : Bool := false
  deriving DecidableEq

/-- An option of the command line. -/
inductive Flag where
  | input
  | format
  | disableConverter
  | config
  | output
  | quiet
  | compact
  | help
  | version
  deriving DecidableEq

namespace Flag

def all : List Flag :=
  [input, format, disableConverter, config, output, quiet, compact, help, version]

/-- The name behind two dashes. -/
def long : Flag → String
  | input => "input"
  | format => "format"
  | disableConverter => "disable-converter"
  | config => "config"
  | output => "output"
  | quiet => "quiet"
  | compact => "compact"
  | help => "help"
  | version => "version"

/-- The letter behind one dash. -/
def letter? : Flag → Option Char
  | input => some 'i'
  | format => some 'f'
  | output => some 'o'
  | quiet => some 'q'
  | compact => some 'c'
  | help => some 'h'
  | version => some 'V'
  | disableConverter | config => none

/-- What the value of an option is called, none for an option without a value. -/
def valueName? : Flag → Option String
  | input => some "INPUT"
  | format => some "FORMAT"
  | disableConverter => some "NAME"
  | config | output => some "FILE"
  | quiet | compact | help | version => none

def described (f : Flag) : String :=
  "--" ++ f.long ++ (match f.valueName? with
    | some name => " <" ++ name ++ ">"
    | none => "")

/-- Whether an option may be given more than once. -/
def repeats (f : Flag) : Bool := f == disableConverter

end Flag

/-- What is wrong with a command line. -/
inductive UsageError where
  | unexpectedArgument (word : String)
  | unexpectedValue (value : String) (flag : Flag)
  | missingValue (argument : String)
  | invalidValue (value : String) (flag : Flag)
  | repeated (flag : Flag)
  deriving DecidableEq

def UsageError.message : UsageError → String
  | unexpectedArgument word => "unexpected argument '" ++ word ++ "' found"
  | unexpectedValue value flag =>
    "unexpected value '" ++ value ++ "' for '--" ++ flag.long ++ "' found; no more were expected"
  | missingValue argument => "a value is required for '" ++ argument ++ "' but none was supplied"
  | invalidValue value flag => "invalid value '" ++ value ++ "' for '" ++ flag.described ++ "'"
  | repeated flag => "the argument '" ++ flag.described ++ "' cannot be used multiple times"

/-- Why a command line does not start a run. -/
inductive Stop where
  | help (long : Bool)
  | version
  | usage (e : UsageError)
  deriving DecidableEq

/-! ## Values -/

def inputFormat? (word : String) : Option InputFormat :=
  [("sql", InputFormat.sql), ("json", .json)].lookup word

def outputFormat? (word : String) : Option OutputFormat :=
  [("sql", OutputFormat.sql), ("json", .json), ("tree", .tree)].lookup word

/-- The parts of a text between commas. -/
def commaParts (text : String) : List String :=
  let (part, parts) := text.toList.foldr (fun c (part, parts) =>
    if c = ',' then ([], String.ofList part :: parts) else (c :: part, parts)) ([], [])
  String.ofList part :: parts

/-- An option that was seen. Words are read one after another; the value of an option, and a file,
is looked at only when the next option or the end is reached. -/
inductive Pending where
  | flag (f : Flag) (value? : Option String)
  | files (names : List String)

/-- The words read so far. -/
structure Reading where
  options : Options := {}
  seen : List Flag := []
  pending? : Option Pending := none

/-- Takes an option, without a value or with the one it was given. -/
def Reading.take (r : Reading) (f : Flag) (long : Bool) (value : String) : Except Stop Reading :=
  if r.seen.contains f ∧ ¬ f.repeats then .error (.usage (.repeated f))
  else
    let accept (o : Options) : Except Stop Reading := .ok { r with options := o, seen := f :: r.seen }
    let refused : Stop :=
      .usage (if value = "" then .missingValue f.described else .invalidValue value f)
    match f with
    | .help => .error (.help long)
    | .version => .error .version
    | .quiet => accept { r.options with quiet := true }
    | .compact => accept { r.options with compact := true }
    | .disableConverter =>
      accept { r.options with disabledConverters := r.options.disabledConverters ++ commaParts value }
    | .input =>
      match inputFormat? value with
      | some format => accept { r.options with input := format }
      | none => .error refused
    | .format =>
      match outputFormat? value with
      | some format => accept { r.options with format := format }
      | none => .error refused
    | .config => if value = "" then .error refused else accept { r.options with config? := some value }
    | .output => if value = "" then .error refused else accept { r.options with output? := some value }

/-- Takes what is pending. -/
def Reading.settle (r : Reading) : Except Stop Reading :=
  let settled := { r with pending? := none }
  match r.pending? with
  | none => .ok r
  | some (.flag f none) => .error (.usage (.missingValue f.described))
  | some (.flag f (some value)) => settled.take f true value
  | some (.files names) =>
    if names.contains "" then .error (.usage (.missingValue "[FILES]..."))
    else .ok { settled with options := { r.options with files := r.options.files ++ names } }

/-- Reads a file name, or the value that an option is waiting for. -/
def Reading.word (r : Reading) (word : String) : Except Stop Reading :=
  match r.pending? with
  | some (.flag f none) => .ok { r with pending? := some (.flag f (some word)) }
  | some (.files names) => .ok { r with pending? := some (.files (names ++ [word])) }
  | _ => do
    let settled ← r.settle
    pure { settled with pending? := some (.files [word]) }

/-- Reads an option, with the value that stands in the same word. -/
def Reading.option (r : Reading) (f : Flag) (long : Bool) (value? : Option String) : Except Stop Reading := do
  match f.valueName?, value? with
  | none, some value => .error (.usage (.unexpectedValue value f))
  | none, none => (← r.settle).take f long ""
  | some _, some value => (← r.settle).take f long value
  | some _, none => do
    let settled ← r.settle
    pure { settled with pending? := some (.flag f none) }

/-- Reads a word behind two dashes. -/
def Reading.longOption (r : Reading) (word : List Char) : Except Stop Reading :=
  let name := String.ofList (word.takeWhile (· != '='))
  let value? := match word.dropWhile (· != '=') with
    | _ :: value => some (String.ofList value)
    | [] => none
  match Flag.all.find? fun f => f.long == name with
  | some f => r.option f true value?
  | none => .error (.usage (.unexpectedArgument ("--" ++ name)))

/-- Reads letters behind one dash. What follows the letter of an option with a value is its value. -/
def Reading.letters (r : Reading) : List Char → Except Stop Reading
  | [] => .ok r
  | c :: rest =>
    match Flag.all.find? fun f => f.letter? == some c with
    | none => .error (.usage (.unexpectedArgument ("-" ++ c.toString)))
    | some f =>
      if f.valueName?.isSome then
        match rest with
        | [] => r.option f false none
        | '=' :: value => r.option f false (some (String.ofList value))
        | value => r.option f false (some (String.ofList value))
      else do
        let next ← r.option f false none
        next.letters rest

def Reading.words (r : Reading) : List String → Except Stop Reading
  | [] => r.settle
  | word :: rest =>
    match word.toList with
    | ['-', '-'] => do
      let named ← rest.foldlM (fun r name => do
        let settled ← match r.pending? with
          | some (.flag _ _) => r.settle
          | _ => pure r
        settled.word name) r
      named.settle
    | '-' :: '-' :: name => do
      let next ← r.longOption name
      next.words rest
    | '-' :: c :: letters => do
      let next ← r.letters (c :: letters)
      next.words rest
    | _ => do
      let next ← r.word word
      next.words rest

/-- What a command line asks for. -/
def Options.ofWords (words : List String) : Except Stop Options :=
  (Reading.words {} words).map fun r => r.options

end DialectConversion.Cli
