import DialectConversion.Conversion.Basic
import DialectConversion.Json.Reader
import DialectConversion.Tree.Node

/-! Reading trees, findings and settings from JSON text. Each is an object with named members or a
list of its fields in order; members with other names are skipped. -/
namespace DialectConversion
set_option autoImplicit false
open Json Json.Reader

/-! ## Trees -/

namespace Node

/-- The members of a node read so far. -/
structure Fields where
  kind? : Option String := none
  attributes? : Option (List (String × String)) := none
  children? : Option (List Node) := none

/-- The node with the given fields; only its kind may not be absent. -/
def ofFields (f : Fields) : Reader Node :=
  match f.kind? with
  | some kind => pure (Node.mk kind (NameMap.ofList (f.attributes?.getD [])) (f.children?.getD []))
  | none => misfitInObject (.missingField "kind")

def readMember (room : Nat) (child : Reader Node) (f : Fields) (name : String) : Reader Fields := do
  if name = "kind" then
    return { f with kind? := ← once name f.kind? text }
  else if name = "attributes" then
    return { f with attributes? := ← once name f.attributes? (textMap (room - 1)) }
  else if name = "children" then
    return { f with children? := ← once name f.children? (listOf (room - 1) child) }
  else
    ignored
    return f

/-- A node inside which so many containers may be opened, itself included; its children are read by
the given reader. -/
def readWith (room : Nat) (child : Reader Node) : Reader Node :=
  record room "struct SyntaxNode"
    (do
      let fields ← members (readMember room child) {}
      ofFields fields)
    (do
      if !(← nextElement true) then
        misfitInList (.wrongLength 0 "struct SyntaxNode with 3 elements")
      let kind ← text
      let attributes ← if ← nextElement false then textMap (room - 1) else pure []
      let children ← if ← nextElement false then listOf (room - 1) child else pure []
      return Node.mk kind (NameMap.ofList attributes) children)

/-- A node inside which so many containers may be opened. A child is two containers further in, the
node and its list of children. -/
def reader : Nat → Reader Node
  | 0 => readWith 0 tooDeep
  | 1 => readWith 1 tooDeep
  | room + 2 => readWith (room + 2) (reader room)

def ofJson (text : String) : Except Fault Node := decode (reader nestingLimit) text

end Node

/-! ## Settings -/

namespace Config

/-- The members of settings read so far. -/
structure Fields where
  disabled? : Option (List String) := none
  maxDepth? : Option Nat := none

/-- Settings with the given fields, and the usual ones where a field is absent. -/
def ofFields (f : Fields) : Config where
  disabledConverters := f.disabled?.getD ({} : Config).disabledConverters
  maxDepth := f.maxDepth?.getD ({} : Config).maxDepth

def reader : Reader Config :=
  let disabled := listOf (nestingLimit - 1) text
  let maxDepth := natural Text.bound64 "usize"
  record nestingLimit "struct ConverterConfig"
    (ofFields <$> members (fun f name => do
        if name = "disabledConverters" then
          return { f with disabled? := ← once name f.disabled? disabled }
        else if name = "maxDepth" then
          return { f with maxDepth? := ← once name f.maxDepth? maxDepth }
        else
          ignored
          return f) {})
    (do
      let disabled? ← if ← nextElement true then some <$> disabled else pure none
      let maxDepth? ← if ← nextElement false then some <$> maxDepth else pure none
      return ofFields ⟨disabled?, maxDepth?⟩)

def ofJson (text : String) : Except Fault Config := decode reader text

end Config

/-! ## Findings -/

namespace Severity

/-- The severity named by a word. -/
def named : Reader Severity := do
  let name ← do
    match ← peek? with
    | none => faultAhead (.unfinished .value)
    | some '"' => do
      eat
      stringBody
    | some _ => wrongType "variant identifier"
  match ofWord? name with
  | some s => pure s
  | none => faultHere (.misfit (.unknownVariant name (all.map word)))

/-- A severity: its word, or an object with this word as its only name and null as the value. -/
def reader (room : Nat) : Reader Severity := do
  match ← peek? with
  | none => faultAhead (.unfinished .value)
  | some '"' => named
  | some '\x7b' =>
    if room = 0 then tooDeep
    else
      eat
      let s ← named
      colon
      match ← peek? with
      | none => faultAhead (.unfinished .value)
      | some 'n' =>
        eat
        Reader.word ['u', 'l', 'l']
      | some _ => wrongType "unit"
      match ← peek? with
      | some '\x7d' =>
        eat
        pure s
      | some _ => faultHere (.malformed .expectedValue)
      | none => faultHere (.unfinished .object)
  | some _ => faultAhead (.malformed .expectedValue)

end Severity

namespace Diagnostic

/-- The members of a finding read so far. -/
structure Fields where
  severity? : Option Severity := none
  code? : Option String := none
  message? : Option String := none
  nodeKind? : Option (Option String) := none

/-- The finding with the given fields; of the fields that may not be absent, the first that is names
the fault. -/
def ofFields (f : Fields) : Reader Diagnostic :=
  match f.severity?, f.code?, f.message? with
  | some severity, some code, some message => pure ⟨severity, code, message, f.nodeKind?.getD none⟩
  | none, _, _ => misfitInObject (.missingField "severity")
  | _, none, _ => misfitInObject (.missingField "code")
  | _, _, none => misfitInObject (.missingField "message")

/-- An element of a list of fields that may not be absent. -/
def required {α : Type} (index : Nat) (element : Reader α) : Reader α := do
  if ← nextElement (index == 0) then element
  else misfitInList (.wrongLength index "struct Diagnostic with 4 elements")

def readMember (f : Fields) (name : String) : Reader Fields := do
  if name = "severity" then
    return { f with severity? := ← once name f.severity? (Severity.reader (nestingLimit - 1)) }
  else if name = "code" then
    return { f with code? := ← once name f.code? text }
  else if name = "message" then
    return { f with message? := ← once name f.message? text }
  else if name = "nodeKind" then
    return { f with nodeKind? := ← once name f.nodeKind? textOrNull }
  else
    ignored
    return f

def reader : Reader Diagnostic :=
  record nestingLimit "struct Diagnostic"
    (do
      let fields ← members readMember {}
      ofFields fields)
    (do
      let severity ← required 0 (Severity.reader (nestingLimit - 1))
      let code ← required 1 text
      let message ← required 2 text
      let nodeKind? ← if ← nextElement false then textOrNull else pure none
      return ⟨severity, code, message, nodeKind?⟩)

def ofJson (text : String) : Except Fault Diagnostic := decode reader text

end Diagnostic
end DialectConversion
