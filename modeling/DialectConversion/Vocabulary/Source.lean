/-! The closed vocabulary of the source dialect: the kinds of nodes that trees of Oracle-style SQL are
made of, with the labels they carry. -/
namespace DialectConversion
set_option autoImplicit false

/-- A kind of node in the source dialect. -/
inductive SourceKind where
  | script
  | selectStatement
  | selectList
  | selectItem
  | fromClause
  | whereClause
  | rawStatement
  | identifier
  | namePart
  | functionArguments
  | expressionList
  | overExpression
  | overExpressionParams
  | analyticClause
  | queryPartitionClause
  | orderByClause
  | orderByElement
  | windowingClause
  | windowName
  | literal
  | binaryExpression
  | parenthesizedExpression
  | rawExpression
  deriving DecidableEq

namespace SourceKind

/-- The label that nodes of the kind carry. -/
def label : SourceKind → String
  | script => "sql-script"
  | selectStatement => "select-statement"
  | selectList => "select-list"
  | selectItem => "select-item"
  | fromClause => "from-clause"
  | whereClause => "where-clause"
  | rawStatement => "raw-statement"
  | identifier => "identifier"
  | namePart => "name-part"
  | functionArguments => "function-arguments"
  | expressionList => "expression-list"
  | overExpression => "over-expression"
  | overExpressionParams => "over-expression-params"
  | analyticClause => "analytic-clause"
  | queryPartitionClause => "query-partition-clause"
  | orderByClause => "order-by-clause"
  | orderByElement => "order-by-element"
  | windowingClause => "windowing-clause"
  | windowName => "window-name"
  | literal => "literal"
  | binaryExpression => "binary-expression"
  | parenthesizedExpression => "parenthesized-expression"
  | rawExpression => "raw-expression"

/-- Every kind of the vocabulary. -/
def all : List SourceKind := [
  .script, .selectStatement, .selectList, .selectItem, .fromClause, .whereClause,
  .rawStatement, .identifier, .namePart, .functionArguments, .expressionList, .overExpression,
  .overExpressionParams, .analyticClause, .queryPartitionClause, .orderByClause,
  .orderByElement, .windowingClause, .windowName, .literal, .binaryExpression,
  .parenthesizedExpression, .rawExpression]

/-- The kind with a given label. -/
def ofLabel? (text : String) : Option SourceKind := all.find? fun k => k.label == text

theorem ofLabel?_label (k : SourceKind) : ofLabel? k.label = some k := by
  cases k <;> decide

theorem label_of_ofLabel? {text : String} {k : SourceKind} (h : ofLabel? text = some k) :
    k.label = text := by
  simpa using List.find?_some h

end SourceKind
end DialectConversion
