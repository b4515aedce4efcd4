import DialectConversion.Conversion.Basic
import DialectConversion.Tree.Node

/-! Steps of a conversion. A step adds to the node under construction, adds findings to the list of
findings and may stop with an error; what it did before it stopped stays visible. -/
namespace DialectConversion
set_option autoImplicit false

/-- The state of a conversion: the node under construction, the findings so far, and how many
nodes are being converted at the moment, each inside the one before. -/
structure Pass where
  parent : Node
  diagnostics : List Diagnostic := []
  depth : Nat := 0
  deriving DecidableEq

/-- What a step leaves behind: the state it reached, the error if one stopped it, and the child that
it hands back to be built on, by its position among the children of the node under construction. -/
structure Progress where
  pass : Pass
  error? : Option ConversionError := none
  returned? : Option Nat := none
  deriving DecidableEq

/-- One step of a conversion. -/
def Step := Pass → Progress

namespace Step

def done : Step := fun p => { pass := p }

def fail (e : ConversionError) : Step := fun p => { pass := p, error? := some e }

def report (d : Diagnostic) : Step := fun p =>
  { pass := { p with diagnostics := p.diagnostics ++ [d] } }

/-- One step, and unless it stops the conversion another one. -/
def andThen (first second : Step) : Step := fun p =>
  match (first p).error? with
  | some _ => first p
  | none => second (first p).pass

/-- The steps in order, up to the first that stops; nothing is handed back. -/
def inOrder : List Step → Step
  | [] => done
  | s :: rest => s.andThen (inOrder rest)

/-- Adds a child and makes it the node under construction for the length of a step. The child stays
where it is when that step stops, and is handed back when it does not. -/
def under (child : Node) (body : Step) : Step := fun p =>
  let inner := body { p with parent := child }
  { pass := { inner.pass with parent := p.parent.withChild inner.pass.parent }
    error? := inner.error?
    returned? := if inner.error?.isNone then some p.parent.children.length else none }

/-- Counts a level for the length of a step, whichever way that step ends. -/
def deeper (body : Step) : Step := fun p =>
  let inner := body { p with depth := p.depth + 1 }
  { inner with pass := { inner.pass with depth := inner.pass.depth - 1 } }

end Step
end DialectConversion
