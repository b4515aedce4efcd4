import DialectConversion.Conversion.Rule
import DialectConversion.Text.Printable

/-! Registries of converters: one converter for a kind of source nodes, the first that asked. -/
namespace DialectConversion
set_option autoImplicit false

/-- A rule under the name by which it is known to users. -/
structure NamedRule where
  name : String
  rule : Rule
  deriving DecidableEq

/-- A named rule for the nodes of one kind. -/
structure Converter extends NamedRule where
  nodeKind : String
  deriving DecidableEq

namespace Converter

/-- The converter that rebuilds the listed aggregates. -/
def aggregateOver : Converter where
  name := "aggregate-over-expression"
  rule := .rebuildAggregate
  nodeKind := SourceKind.overExpression.label

/-- The converter that keeps over-expressions. -/
def plainOver : Converter where
  name := "over-expression"
  rule := .keepOver
  nodeKind := SourceKind.overExpression.label

def standard : List Converter := [aggregateOver]

end Converter

/-- Named rules by the kind of node they are for. -/
structure Registry where
  byKind : NameMap NamedRule := {}
  deriving DecidableEq

namespace Registry

def empty : Registry := {}

def get? (r : Registry) (kind : String) : Option NamedRule := r.byKind.get? kind

def size (r : Registry) : Nat := r.byKind.entries.length

def isEmpty (r : Registry) : Bool := r.byKind.isEmpty

/-- The kinds that have a converter, in increasing order. -/
def kinds (r : Registry) : List String := r.byKind.names

/-- Adds a converter, unless there is one for its kind. -/
def register (r : Registry) (c : Converter) : Except RegistryError Registry :=
  match r.get? c.nodeKind with
  | some existing => .error (.duplicateConverter c.nodeKind existing.name c.name)
  | none => .ok ⟨r.byKind.set c.nodeKind c.toNamedRule⟩

/-- Adds a converter to a registry that is changed in place. A refusal leaves the registry as it is, so that further
converters can be added to it. -/
def registerIn (c : Converter) : StateM Registry (Except RegistryError Unit) := do
  match (← get).register c with
  | .ok added => set added; return .ok ()
  | .error e => return .error e

/-- Registers converters in order; the first refusal ends it. -/
def ofConverters (cs : List Converter) : Except RegistryError Registry :=
  cs.foldlM register {}

/-- The registry written out as quoted kinds and names between braces. -/
def listing (r : Registry) : String :=
  "\x7b" ++ Text.joined ", " (r.byKind.entries.map fun e =>
    Text.quotedListing e.1 ++ ": " ++ Text.quotedListing e.2.name) ++ "\x7d"

end Registry
end DialectConversion
