/-! The settings of a conversion, the findings that it reports without stopping, and the errors that stop it or keep
its converters from being used together. -/
namespace DialectConversion
set_option autoImplicit false

/-! ## Settings -/

/-- The converters left out of the registry, by name, and the deepest nesting that is followed. -/
structure Config where
  disabledConverters : List String := []
  maxDepth : Nat := 100
  deriving DecidableEq

namespace Config

def enables (c : Config) (name : String) : Bool := !c.disabledConverters.contains name

/-- The settings with one more converter left out, unless it was left out already. -/
def disabling (c : Config) (name : String) : Config :=
  if c.disabledConverters.contains name then c
  else { c with disabledConverters := c.disabledConverters ++ [name] }

end Config

/-! ## Findings -/

/-- How grave a finding is. -/
inductive Severity where
  | error
  | warning
  | info
  deriving DecidableEq

namespace Severity

/-- The word for a severity in data. -/
def word : Severity → String
  | error => "error"
  | warning => "warning"
  | info => "info"

def all : List Severity := [error, warning, info]

/-- The severity that a word stands for. -/
def ofWord? (text : String) : Option Severity := all.find? fun s => s.word == text

theorem ofWord?_word (s : Severity) : ofWord? s.word = some s := by
  cases s <;> decide

end Severity

/-- One finding: its severity, a code for programs, a message for people and, where it concerns
nodes of one kind, their kind. -/
structure Diagnostic where
  severity : Severity
  code : String
  message : String
  nodeKind? : Option String := none
  deriving DecidableEq

namespace Diagnostic

/-- The code of findings about kinds outside the source vocabulary. -/
def unmappedCode : String := "UNMAPPED_NODE_KIND"

/-- The code of findings about statements that are kept as text. -/
def rawStatementCode : String := "RAW_STATEMENT"

/-- A kind has no counterpart in the target vocabulary. -/
def unmapped (kind : String) : Diagnostic where
  severity := .warning
  code := unmappedCode
  message := "no target equivalent for '" ++ kind ++ "' nodes"
  nodeKind? := some kind

/-- A statement went through as text. -/
def rawStatement (kind : String) : Diagnostic where
  severity := .info
  code := rawStatementCode
  message := "statement copied as text without conversion"
  nodeKind? := some kind

end Diagnostic

/-! ## Errors -/

/-- Why a conversion stopped. -/
inductive ConversionError where
  /-- A node lacks a part that its grammar guarantees. -/
  | missingSubstructure (nodeKind expected : String)
  /-- A node lies deeper than the limit allows. -/
  | depthLimitExceeded (nodeKind : String) (maxDepth : Nat)
  deriving DecidableEq

def ConversionError.message : ConversionError → String
  | missingSubstructure nodeKind expected => nodeKind ++ " node is missing expected " ++ expected
  | depthLimitExceeded nodeKind maxDepth =>
    "conversion exceeded maximum nesting depth of " ++ toString maxDepth ++ " at " ++ nodeKind ++ " node"

/-- Why a set of converters was refused. -/
inductive RegistryError where
  /-- Two converters claim the nodes of one kind. -/
  | duplicateConverter (kind existing duplicate : String)
  deriving DecidableEq

def RegistryError.message : RegistryError → String
  | duplicateConverter kind existing duplicate =>
    "converters '" ++ existing ++ "' and '" ++ duplicate ++ "' are both registered for node kind '" ++
      kind ++ "'"

end DialectConversion
