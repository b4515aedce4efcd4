import DialectConversion.Text.Basic
import DialectConversion.Tree.Node
import DialectConversion.Vocabulary.Mapping

/-! Rendering of target trees as SQL text. The text of a node is put together from its attributes
and the texts of its children by a form that depends on its kind alone. -/
namespace DialectConversion
set_option autoImplicit false

namespace Render
open Text

/-- A child as its parent's form sees it: its kind and its text. -/
structure Part where
  kind : String
  text : String

/-- The texts of the parts with a separator between neighbours. -/
def joinedParts (separator : String) (parts : List Part) : String :=
  joined separator (parts.map Part.text)

/-- The texts of the parts one after the other. -/
def adjacentParts (parts : List Part) : String := joinedParts "" parts

/-- A name in brackets, with every closing bracket doubled. -/
def bracketed (name : String) : String :=
  "[" ++ String.ofList (doubled ']' name.toList) ++ "]"

/-- A name as it is written, in brackets when it is quoted. -/
def nameText (attributes : Attributes) : String :=
  let text := (attributes.get? AttributeName.text).getD ""
  if attributes.get? AttributeName.quoted = some "true" then bracketed text else text

/-- A part that is the name proper of a multipart identifier, and not what follows it. -/
def isName (p : Part) : Bool := p.kind = TargetKind.simpleIdentifier.label

/-- The text attribute where there is one, otherwise the parts in order. -/
def textOrParts (attributes : Attributes) (parts : List Part) : String :=
  (attributes.get? AttributeName.text).getD (joinedParts " " parts)

/-- The form of a node of the given kind; kinds outside the vocabulary have none of their own. -/
def form (kind? : Option TargetKind) (attributes : Attributes) (parts : List Part) : String :=
  match kind? with
  | some .document | some .script =>
    joined ";\n" ((parts.map Part.text).filter fun statement => !statement.isEmpty)
  | some .selectStatement | some .overExpressionParams | some .windowSpecification =>
    joinedParts " " parts
  | some .selectList => "SELECT " ++ joinedParts ", " parts
  | some .selectElement =>
    match attributes.get? AttributeName.aliasName with
    | some name => joinedParts " " parts ++ " AS " ++ name
    | none => joinedParts " " parts
  | some .fromClause => "FROM " ++ (attributes.get? AttributeName.text).getD ""
  | some .whereClause => "WHERE " ++ joinedParts " " parts
  | some .multipartIdentifier =>
    joinedParts "." (parts.filter isName) ++ adjacentParts (parts.filter fun p => !isName p)
  | some .simpleIdentifier => nameText attributes ++ adjacentParts parts
  | some .simpleIdentifierParams | some .functionCallParams => "(" ++ joinedParts ", " parts ++ ")"
  | some .expressionList => joinedParts ", " parts
  | some .overExpression =>
    match parts with
    | [] => ""
    | function :: params => function.text ++ " OVER (" ++ joinedParts " " params ++ ")"
  | some .partitionByClause => "PARTITION BY " ++ joinedParts ", " parts
  | some .orderByClause => "ORDER BY " ++ joinedParts ", " parts
  | some .binaryExpression =>
    match parts with
    | [left, right] =>
      left.text ++ " " ++ (attributes.get? AttributeName.operator).getD "" ++ " " ++ right.text
    | _ => joinedParts " " parts
  | some .parenthesizedExpression => "(" ++ joinedParts " " parts ++ ")"
  | some .rawStatement | some .orderByElement | some .windowFrameClause | some .windowName
  | some .literal | some .rawExpression | none => textOrParts attributes parts

end Render

namespace Node

mutual
/-- The SQL text of a tree. -/
def render : Node → String
  | mk k a cs => Render.form (TargetKind.ofLabel? k) a (renderEach cs)

def renderEach : List Node → List Render.Part
  | [] => []
  | c :: rest => ⟨c.kind, render c⟩ :: renderEach rest
end

end Node
end DialectConversion
