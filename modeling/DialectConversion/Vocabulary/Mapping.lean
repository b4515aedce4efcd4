import DialectConversion.Vocabulary.Source
import DialectConversion.Vocabulary.Target

/-! Correspondence of the two vocabularies: every kind of the source dialect has one counterpart in
the target dialect. Also the attribute names that both dialects share. -/
namespace DialectConversion
set_option autoImplicit false

/-- The target kind that a source kind is relabelled to. -/
def SourceKind.target : SourceKind → TargetKind
  | .script => .script
  | .selectStatement => .selectStatement
  | .selectList => .selectList
  | .selectItem => .selectElement
  | .fromClause => .fromClause
  | .whereClause => .whereClause
  | .rawStatement => .rawStatement
  | .identifier => .multipartIdentifier
  | .namePart => .simpleIdentifier
  | .functionArguments => .functionCallParams
  | .expressionList => .expressionList
  | .overExpression => .overExpression
  | .overExpressionParams => .overExpressionParams
  | .analyticClause => .windowSpecification
  | .queryPartitionClause => .partitionByClause
  | .orderByClause => .orderByClause
  | .orderByElement => .orderByElement
  | .windowingClause => .windowFrameClause
  | .windowName => .windowName
  | .literal => .literal
  | .binaryExpression => .binaryExpression
  | .parenthesizedExpression => .parenthesizedExpression
  | .rawExpression => .rawExpression

/-- The label that replaces a source label, or none for a label outside the source vocabulary. -/
def mapLabel? (label : String) : Option String :=
  (SourceKind.ofLabel? label).map fun k => k.target.label

theorem mapLabel?_label (k : SourceKind) : mapLabel? k.label = some k.target.label := by
  rw [mapLabel?, SourceKind.ofLabel?_label, Option.map_some]

/-! ## Attribute names -/

namespace AttributeName

/-- The text of a leaf: a name, a literal or SQL kept as it was. -/
def text : String := "text"

/-- The second spelling that a rebuilt function name carries. -/
def value : String := "value"

/-- Marks a quoted name by the value true. -/
def quoted : String := "quoted"

/-- The alias of an item in a select list. -/
def aliasName : String := "alias"

/-- The operator between two operands. -/
def operator : String := "operator"

end AttributeName
end DialectConversion
