import DialectConversion.Name.Identifier
import DialectConversion.Text.Basic

/-! Which over-expressions are rebuilt: calls with an OVER clause whose function is named by a
single part, in the list of rebuilt aggregates up to the case of ASCII letters. -/
namespace DialectConversion
set_option autoImplicit false

/-- The aggregates that are rebuilt, in canonical spelling. -/
def rebuiltAggregates : List String := ["FIRST_VALUE"]

/-- Whether a canonical name is, up to the case of ASCII letters, one of the rebuilt aggregates. -/
def isRebuiltAggregate (canonical : String) : Bool :=
  rebuiltAggregates.any fun name => Text.equalIgnoringAsciiCase name canonical

/-- What the rebuilding reads of an over-expression. -/
structure MatchedOver where
  /-- The canonical spelling of the function's name. -/
  functionName : String
  functionIdentifier : Node
  overParams : Node
  deriving DecidableEq

/-- Why an over-expression is left to the plain treatment. -/
inductive DelegateReason where
  /-- It has not exactly two children. -/
  | shape
  /-- Its function identifier carries no name. -/
  | unnamed
  /-- The name of its function has several parts. -/
  | multiPartName
  /-- Its function is not among the rebuilt ones. -/
  | unsupported
  deriving DecidableEq

/-- The decision on an over-expression. -/
inductive OverMatch where
  | rebuild (matched : MatchedOver)
  | delegate (reason : DelegateReason)
  deriving DecidableEq

/-- Decides whether an over-expression is rebuilt. Its shape is looked at first, then its name. -/
def Node.matchOver (source : Node) : OverMatch :=
  match source.children with
  | [function, params] =>
    match function.qualifiedName? with
    | none => .delegate .unnamed
    | some name =>
      match name.single? with
      | none => .delegate .multiPartName
      | some part =>
        if isRebuiltAggregate part.canonical then .rebuild ⟨part.canonical, function, params⟩
        else .delegate .unsupported
  | _ => .delegate .shape

end DialectConversion
