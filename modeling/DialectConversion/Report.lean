import DialectConversion.Conversion.Document
import DialectConversion.Json.Encode
import DialectConversion.Render
import DialectConversion.Tree.Node

/-! Reports on converted inputs: the SQL text, the outlines of the trees, trees and findings as JSON,
and the findings for people. -/
namespace DialectConversion
set_option autoImplicit false

/-- A converted input and the name it goes by. -/
structure ConvertedInput where
  name : String
  document : ConvertedDocument
  deriving DecidableEq

namespace Report

/-- The text of every input with a blank line between neighbours. Where there are several, each has a
heading with its name. -/
def sections (heading : String) (text : ConvertedInput → String) (inputs : List ConvertedInput) : String :=
  Text.joined "\n" <| inputs.map fun i =>
    if inputs.length > 1 then heading ++ i.name ++ "\n" ++ text i ++ "\n" else text i ++ "\n"

/-- The inputs as SQL text of the target dialect. -/
def sql (inputs : List ConvertedInput) : String :=
  sections "-- " (fun i => i.document.root.render) inputs

def tree (inputs : List ConvertedInput) : String :=
  sections "# " (fun i => i.document.root.outline) inputs

/-- The JSON form of a converted input. -/
def inputJson (i : ConvertedInput) : Json.Value :=
  .object [("name", .string i.name), ("root", i.document.root.toJson),
    ("diagnostics", .array (i.document.diagnostics.map Diagnostic.toJson))]

/-- The inputs as a JSON list, in one of two layouts. -/
def json (compact : Bool) (inputs : List ConvertedInput) : String :=
  let value : Json.Value := .array (inputs.map inputJson)
  if compact then value.compact else value.pretty

/-! ## Findings -/

/-- A text in a terminal style that starts and ends with the given codes. -/
def styled (start finish text : String) : String :=
  "\x1b[" ++ start ++ "m" ++ text ++ "\x1b[" ++ finish ++ "m"

def severityLabel : Severity → String
  | .error => "ERROR"
  | .warning => "WARN"
  | .info => "INFO"

def severityColor : Severity → String
  | .error => "31"
  | .warning => "33"
  | .info => "34"

/-- The line that reports a finding on an input. -/
def findingLine (colored : Bool) (name : String) (d : Diagnostic) : String :=
  let label := severityLabel d.severity
  let label := if colored then styled (severityColor d.severity) "39" label else label
  let code := if colored then styled "2" "0" d.code else d.code
  name ++ ": [" ++ label ++ "] " ++ code ++ ": " ++ d.message ++ "\n"

def findings (colored : Bool) (inputs : List ConvertedInput) : String :=
  String.join (inputs.flatMap fun i => i.document.diagnostics.map (findingLine colored i.name))

end Report
end DialectConversion
