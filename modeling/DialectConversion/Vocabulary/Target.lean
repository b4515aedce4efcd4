/-! The closed vocabulary of the target dialect: the kinds of nodes that trees of SQL Server's SQL are
made of, with the labels they carry. -/
namespace DialectConversion
set_option autoImplicit false

/-- A kind of node in the target dialect. -/
inductive TargetKind where
  | document
  | script
  | selectStatement
  | selectList
  | selectElement
  | fromClause
  | whereClause
  | rawStatement
  | multipartIdentifier
  | simpleIdentifier
  | simpleIdentifierParams
  | functionCallParams
  | expressionList
  | overExpression
  | overExpressionParams
  | windowSpecification
  | partitionByClause
  | orderByClause
  | orderByElement
  | windowFrameClause
  | windowName
  | literal
  | binaryExpression
  | parenthesizedExpression
  | rawExpression
  deriving DecidableEq

namespace TargetKind

/-- The label that nodes of the kind carry. -/
def label : TargetKind → String
  | document => "document"
  | script => "script"
  | selectStatement => "select-statement"
  | selectList => "select-list"
  | selectElement => "select-element"
  | fromClause => "from-clause"
  | whereClause => "where-clause"
  | rawStatement => "raw-statement"
  | multipartIdentifier => "multipart-identifier"
  | simpleIdentifier => "simple-identifier"
  | simpleIdentifierParams => "simple-identifier-params"
  | functionCallParams => "function-call-params"
  | expressionList => "expression-list"
  | overExpression => "over-expression"
  | overExpressionParams => "over-expression-params"
  | windowSpecification => "window-specification"
  | partitionByClause => "partition-by-clause"
  | orderByClause => "order-by-clause"
  | orderByElement => "order-by-element"
  | windowFrameClause => "window-frame-clause"
  | windowName => "window-name"
  | literal => "literal"
  | binaryExpression => "binary-expression"
  | parenthesizedExpression => "parenthesized-expression"
  | rawExpression => "raw-expression"

/-- Every kind of the vocabulary. -/
def all : List TargetKind := [
  .document, .script, .selectStatement, .selectList, .selectElement, .fromClause, .whereClause,
  .rawStatement, .multipartIdentifier, .simpleIdentifier, .simpleIdentifierParams,
  .functionCallParams, .expressionList, .overExpression, .overExpressionParams,
  .windowSpecification, .partitionByClause, .orderByClause, .orderByElement,
  .windowFrameClause, .windowName, .literal, .binaryExpression, .parenthesizedExpression,
  .rawExpression]

/-- The kind with a given label. -/
def ofLabel? (text : String) : Option TargetKind := all.find? fun k => k.label == text

theorem ofLabel?_label (k : TargetKind) : ofLabel? k.label = some k := by
  cases k <;> decide

theorem label_of_ofLabel? {text : String} {k : TargetKind} (h : ofLabel? text = some k) :
    k.label = text := by
  simpa using List.find?_some h

end TargetKind
end DialectConversion
