import DialectConversion.Sql.Syntax
import DialectConversion.Tree.Node
import DialectConversion.Vocabulary.Mapping

/-! Trees of SQL syntax in the source vocabulary. What the conversion looks into becomes structure:
plain selects, names, literals, binary operators, grouping, calls and their windows. All else is
kept as its canonical text, so that nothing is dropped. -/
namespace DialectConversion
set_option autoImplicit false
open Sql

namespace SourceKind

/-- A node of a kind that holds a text. -/
def textNode (k : SourceKind) (text : String) : Node :=
  (Node.leaf k.label).withAttribute AttributeName.text text

/-- A node of a kind with children and no attributes. -/
def branchNode (k : SourceKind) (children : List Node) : Node := Node.branch k.label children

end SourceKind

namespace Sql

/-- The node of one part of a name. -/
def Ident.node (i : Ident) : Node :=
  let part := SourceKind.namePart.textNode i.value
  if i.quote?.isSome then part.withAttribute AttributeName.quoted "true" else part

def windowNameNode (i : Ident) : Node := SourceKind.windowName.textNode i.text

/-- Whether a call has nothing but a name, arguments and a window. -/
def CallHead.isPlain (h : CallHead) : Bool :=
  h.parameters?.isNone && h.treatment?.isNone && h.clauses.isEmpty && h.withinGroup.isEmpty &&
    h.filter?.isNone && h.nullTreatment?.isNone

/-- The node of a call, given the nodes of its arguments and of what its window is made of. -/
def CallHead.node (h : CallHead) (arguments : List Node) (window? : Option Node) : Node :=
  let call := SourceKind.identifier.branchNode (h.name.map Ident.node ++
    [SourceKind.functionArguments.branchNode [SourceKind.expressionList.branchNode arguments]])
  match window? with
  | none => call
  | some window =>
    SourceKind.overExpression.branchNode [call, SourceKind.overExpressionParams.branchNode [window]]

/-- The node of a window specification, given the nodes of its partition. -/
def windowSpecNode (name? : Option Ident) (partition : List Node) (orderBy : List String)
    (frame? : Option Frame) : Node :=
  SourceKind.analyticClause.branchNode <|
    (name?.map windowNameNode).toList ++
    (if partition.isEmpty then [] else [SourceKind.queryPartitionClause.branchNode partition]) ++
    (if orderBy.isEmpty then []
      else [SourceKind.orderByClause.branchNode (orderBy.map SourceKind.orderByElement.textNode)]) ++
    (frame?.map fun f => SourceKind.windowingClause.textNode f.text).toList

mutual
def Expr.node : Expr → Node
  | .name parts => SourceKind.identifier.branchNode (parts.map Ident.node)
  | .value spelling => SourceKind.literal.textNode spelling
  | .binary left operator right =>
    (SourceKind.binaryExpression.branchNode [left.node, right.node]).withAttribute
      AttributeName.operator operator
  | .nested inner => SourceKind.parenthesizedExpression.branchNode [inner.node]
  | .call head arguments window =>
    if head.isPlain then head.node (argumentNodes arguments) window.node?
    else SourceKind.rawExpression.textNode (head.text (argumentTexts arguments) window.text?)
  | .subquery query => SourceKind.rawExpression.textNode ("(" ++ query ++ ")")
  | .other spelling => SourceKind.rawExpression.textNode spelling

def Expr.nodes : List Expr → List Node
  | [] => []
  | e :: rest => e.node :: Expr.nodes rest

def Argument.node : Argument → Node
  | .expr e => e.node
  | .other spelling => SourceKind.rawExpression.textNode spelling

def argumentNodes : List Argument → List Node
  | [] => []
  | a :: rest => a.node :: argumentNodes rest

/-- What the parameters of an over-expression are made of, none without a window. -/
def Window.node? : Window → Option Node
  | .absent => none
  | .named name => some (windowNameNode name)
  | .spec name? partitionBy orderBy frame? =>
    some (windowSpecNode name? (Expr.nodes partitionBy) orderBy frame?)
end

def SelectItem.node : SelectItem → Node
  | .expr e => SourceKind.selectItem.branchNode [e.node]
  | .aliased e aliasName =>
    (SourceKind.selectItem.branchNode [e.node]).withAttribute AttributeName.aliasName aliasName.text
  | .other spelling => SourceKind.selectItem.branchNode [SourceKind.rawExpression.textNode spelling]

/-- The tree of a select: its list, its tables as text, and its condition. -/
def Select.node (s : Select) : Node :=
  SourceKind.selectStatement.branchNode <|
    [SourceKind.selectList.branchNode (s.projection.map SelectItem.node)] ++
    (if s.tables.isEmpty then [] else [SourceKind.fromClause.textNode (Text.joined ", " s.tables)]) ++
    (match s.selection? with
      | some condition => [SourceKind.whereClause.branchNode [condition.node]]
      | none => [])

/-- Whether a select has no clauses that its tree has no place for. -/
def Select.isPlain (s : Select) : Bool :=
  s.groupBy?.isNone && s.distinct?.isNone && s.top?.isNone && s.into?.isNone && s.having?.isNone &&
    s.qualify?.isNone && s.windows.isEmpty && s.prewhere?.isNone && s.connectBy?.isNone &&
    s.lateralViews.isEmpty && s.clusterBy.isEmpty && s.distributeBy.isEmpty && s.sortBy.isEmpty

/-- The select that a query is, none if the query has clauses around it or if the select is not
plain. -/
def Query.plainSelect? (q : Query) : Option Select :=
  if q.text = q.body.text then
    match q.body with
    | .select s => if s.isPlain then some s else none
    | .other _ => none
  else none

def Statement.node (s : Statement) : Node :=
  let raw := SourceKind.rawStatement.textNode s.text
  match s with
  | .query q =>
    match q.plainSelect? with
    | some select => select.node
    | none => raw
  | .other _ => raw

def scriptNode (statements : List Statement) : Node :=
  SourceKind.script.branchNode (statements.map Statement.node)

end Sql
end DialectConversion
