import DialectConversion.Proofs.Conversion.Dispatch

/-! What the rebuilding of aggregates makes of a lowered call over a window: either the call is rebuilt
from its arguments and its window, or both of its parts are kept. -/
namespace DialectConversion.Conversion
set_option autoImplicit false
open Sql

variable {config : Config} {arguments : List Node} {window : Node}

/-- A call that is rebuilt. Its parts are there, so that nothing is missed. -/
theorem contribution_overNode_of_rebuild
    (henabled : config.enables Converter.aggregateOver.name = true) {i : Ident} {m : MatchedOver}
    (hmatch : (overNode [i] arguments window).matchOver = .rebuild m) (levels : Nat) :
    (standard config).contribution (levels + 1) (overNode [i] arguments window) =
      (((((standard config).contribution levels (SourceKind.expressionList.branchNode arguments)).under
          (Node.leaf TargetKind.simpleIdentifierParams.label)).under
          (Rule.rebuiltName i.identifier.canonical)).andThen
        (((standard config).contribution levels window).under
          (Node.leaf TargetKind.overExpressionParams.label))).under
        (Node.leaf TargetKind.overExpression.label) := by
  obtain ⟨j, hj, rfl⟩ := of_matchOver_overNode hmatch
  obtain rfl : i = j := (List.cons.inj hj).1
  rw [contribution_succ, show (overNode [i] arguments window).kind = SourceKind.overExpression.label from rfl,
    ruleFor_standard_overExpression henabled]
  simp only [Rule.contribution, hmatch, Rule.rebuildContribution, MatchedOver.parts?,
    findDescendant?_callNode]
  rfl

theorem contribution_overNode_of_delegate
    (henabled : config.enables Converter.aggregateOver.name = true) {name : List Ident}
    {reason : DelegateReason} (hmatch : (overNode name arguments window).matchOver = .delegate reason)
    (levels : Nat) :
    (standard config).contribution (levels + 1) (overNode name arguments window) =
      (((standard config).contribution levels (callNode name arguments)).andThen
        (((standard config).contribution levels window).under
          (Node.leaf TargetKind.overExpressionParams.label))).under
        (Node.leaf TargetKind.overExpression.label) := by
  have husual : (overNode name arguments window).usualParts? =
      some (callNode name arguments, SourceKind.overExpressionParams.branchNode [window]) := rfl
  have hwindow : (SourceKind.overExpressionParams.branchNode [window]).children = [window] := rfl
  rw [contribution_succ, show (overNode name arguments window).kind = SourceKind.overExpression.label from rfl,
    ruleFor_standard_overExpression henabled]
  simp only [Rule.contribution, hmatch, Rule.keepOverContribution, husual, hwindow, List.map_singleton,
    Contribution.inOrder_singleton]

end DialectConversion.Conversion
