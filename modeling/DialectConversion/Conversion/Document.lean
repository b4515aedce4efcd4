import DialectConversion.Conversion.Basic
import DialectConversion.Conversion.Registry

/-! Conversion of whole trees. Every node is converted by the rule registered for its kind, or
relabelled where none is, and reaches its parts through this same choice. A node that would be the
one too many of the nodes being converted inside each other stops the conversion; that limit is
what makes the recursion end. -/
namespace DialectConversion
set_option autoImplicit false

/-- What a conversion needs: its registry and its settings. -/
structure Conversion where
  registry : Registry
  config : Config
  deriving DecidableEq

/-- A converted tree and the findings on it. -/
structure ConvertedDocument where
  root : Node
  diagnostics : List Diagnostic
  deriving DecidableEq

namespace Conversion

/-- The conversion with the standard converters, without those that the settings leave out. -/
def ofConfig (config : Config) : Except RegistryError Conversion :=
  (Registry.ofConverters (Converter.standard.filter fun c => config.enables c.name)).map
    fun registry => ⟨registry, config⟩

/-- The rule for nodes of a kind. -/
def ruleFor (cv : Conversion) (kind : String) : Rule :=
  match cv.registry.get? kind with
  | some named => named.rule
  | none => .relabel

/-- Converts a node when so many levels are left below the limit. -/
def convertWithin (cv : Conversion) : Nat → Node → Step
  | 0, source => Step.fail (.depthLimitExceeded source.kind cv.config.maxDepth)
  | levels + 1, source =>
    Step.deeper ((cv.ruleFor source.kind).apply (cv.convertWithin levels) source)

/-- Converts a node under the node under construction. -/
def convertNode (cv : Conversion) (source : Node) : Step := fun p =>
  cv.convertWithin (cv.config.maxDepth - p.depth) source p

/-- Converts the children of a node under the node under construction. -/
def convertChildren (cv : Conversion) (source : Node) : Step := Rule.children cv.convertNode source

/-- Converts a node by one rule, whatever is registered for its kind, and its parts as usual. -/
def convertBy (cv : Conversion) (rule : Rule) (source : Node) : Step := rule.apply cv.convertNode source

/-- Converts a whole tree, under a document node. -/
def convertDocument (cv : Conversion) (source : Node) : Except ConversionError ConvertedDocument :=
  let result := cv.convertNode source ⟨Node.leaf TargetKind.document.label, [], 0⟩
  match result.error? with
  | some e => .error e
  | none => .ok ⟨result.pass.parent, result.pass.diagnostics⟩

end Conversion
end DialectConversion
