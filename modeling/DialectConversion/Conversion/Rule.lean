import DialectConversion.Conversion.Over
import DialectConversion.Conversion.Step

/-! The rules by which single nodes are converted. A rule is given the node and a way to convert
other nodes, which is how it reaches the parts of its node. -/
namespace DialectConversion
set_option autoImplicit false

inductive Rule where
  /-- Rebuild calls of the listed aggregates, and keep all other over-expressions. -/
  | rebuildAggregate
  /-- Keep the function and every OVER parameter of an over-expression. -/
  | keepOver
  /-- Relabel the node and keep its attributes and children. -/
  | relabel
  deriving DecidableEq

namespace Rule

/-- Converts the children of a node in order. -/
def children (convert : Node → Step) (source : Node) : Step :=
  Step.inOrder (source.children.map convert)

/-- The findings on a node that is relabelled: its kind is unknown, or it is a statement kept as
text. -/
def relabelFindings (source : Node) : List Diagnostic :=
  (if (mapLabel? source.kind).isNone then [Diagnostic.unmapped source.kind] else []) ++
    (if source.kind = SourceKind.rawStatement.label then [Diagnostic.rawStatement source.kind] else [])

/-- Relabels a node; a kind outside the source vocabulary keeps its label. -/
def relabelNode (convert : Node → Step) (source : Node) : Step :=
  (Step.inOrder ((relabelFindings source).map Step.report)).andThen <|
    Step.under (Node.mk ((mapLabel? source.kind).getD source.kind) source.attributes []) <|
      children convert source

/-- Keeps an over-expression. In the usual shape, a function and its OVER parameters, the
parameters are put into a container of their own; in any other shape all children are converted in
place. -/
def keepOverExpression (convert : Node → Step) (source : Node) : Step :=
  Step.under (Node.leaf TargetKind.overExpression.label) <|
    match source.children with
    | [function, params] =>
      if params.kind = SourceKind.overExpressionParams.label then
        (convert function).andThen <|
          Step.under (Node.leaf TargetKind.overExpressionParams.label) (children convert params)
      else children convert source
    | _ => children convert source

/-- The node that a rebuilt function name becomes, before it gets its arguments. -/
def rebuiltName (functionName : String) : Node :=
  ((Node.leaf TargetKind.simpleIdentifier.label).withAttribute AttributeName.text functionName)
    |>.withAttribute AttributeName.value functionName

/-- Rebuilds a matched over-expression: its argument list goes below the rebuilt name, and of the
OVER parameters the first one is kept. Both are looked up before anything is added. -/
def rebuildOverExpression (convert : Node → Step) (source : Node) (m : MatchedOver) : Step :=
  match m.functionIdentifier.findDescendant? SourceKind.expressionList.label with
  | none => Step.fail (.missingSubstructure source.kind "expression-list under the function identifier")
  | some arguments =>
    match m.overParams.firstChild? with
    | none => Step.fail (.missingSubstructure source.kind "child under the OVER parameters")
    | some parameter =>
      Step.under (Node.leaf TargetKind.overExpression.label) <|
        (Step.under (rebuiltName m.functionName) <|
          Step.under (Node.leaf TargetKind.simpleIdentifierParams.label) (convert arguments)).andThen <|
        Step.under (Node.leaf TargetKind.overExpressionParams.label) (convert parameter)

def apply (rule : Rule) (convert : Node → Step) (source : Node) : Step :=
  match rule with
  | relabel => relabelNode convert source
  | keepOver => keepOverExpression convert source
  | rebuildAggregate =>
    match source.matchOver with
    | .rebuild m => rebuildOverExpression convert source m
    | .delegate _ => keepOverExpression convert source

end Rule
end DialectConversion
