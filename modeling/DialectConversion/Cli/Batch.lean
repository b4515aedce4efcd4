import DialectConversion.Cli.Options
import DialectConversion.Conversion.Script
import DialectConversion.Json.Decode
import DialectConversion.Report

/-! The inputs of a batch, each converted by itself, and the report on those that convert. -/
namespace DialectConversion.Cli
set_option autoImplicit false

/-- The content of an input and the name it goes by. -/
structure Input where
  name : String
  content : String
  deriving DecidableEq

/-- Why an input was not converted. -/
inductive InputError where
  | script (e : ScriptError)
  /-- The text is not the JSON form of a tree. -/
  | json (fault : Json.Fault) (text : String)
  | conversion (e : ConversionError)

def InputError.message : InputError → String
  | script e => e.message
  | json fault text => "Failed to parse syntax tree JSON: " ++ fault.message text
  | conversion e => e.message

def convertContent (cv : Conversion) (format : InputFormat) (content : String) :
    Except InputError ConvertedDocument :=
  match format with
  | .sql => (cv.convertScript content).mapError .script
  | .json =>
    match Node.ofJson content with
    | .error fault => .error (.json fault content)
    | .ok tree => (cv.convertDocument tree).mapError .conversion

def errorLine (message : String) : String := "sqlbridge: error: " ++ message ++ "\n"

/-- The report on converted inputs in the format asked for. -/
def Options.report (o : Options) (inputs : List ConvertedInput) : String :=
  match o.format with
  | .sql => Report.sql inputs
  | .tree => Report.tree inputs
  | .json => Report.json o.compact inputs

/-- How far a batch has come: the inputs converted so far, in order, and whether there were others. -/
structure Progress where
  converted : List ConvertedInput := []
  failed : Bool := false
  deriving DecidableEq

end DialectConversion.Cli
