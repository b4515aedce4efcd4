import DialectConversion.Proofs.Conversion.Dispatch

/-! Over-expressions that are not matched. A conversion that rebuilds aggregates treats them, at every
level of a tree, as a conversion that keeps every over-expression does. -/
namespace DialectConversion
set_option autoImplicit false

namespace Conversion

theorem convertWithin_congr {cv other : Conversion} (hlimit : cv.config.maxDepth = other.config.maxDepth)
    {source : Node}
    (hrules : ∀ n ∈ source.preorder, ∀ convert,
      (cv.ruleFor n.kind).apply convert n = (other.ruleFor n.kind).apply convert n)
    (levels : Nat) : cv.convertWithin levels source = other.convertWithin levels source := by
  have hzero (n : Node) : cv.convertWithin 0 n = other.convertWithin 0 n := by
    unfold convertWithin
    rw [hlimit]
  exact convertWithin_related .eq (fun _ _ => congrArg Step.deeper) 0 hzero hrules levels

theorem convertDocument_congr {cv other : Conversion}
    (hlimit : cv.config.maxDepth = other.config.maxDepth) {source : Node}
    (hrules : ∀ n ∈ source.preorder, ∀ convert,
      (cv.ruleFor n.kind).apply convert n = (other.ruleFor n.kind).apply convert n) :
    cv.convertDocument source = other.convertDocument source := by
  unfold convertDocument convertNode
  rw [hlimit, convertWithin_congr hlimit hrules]

/-- On a tree in which no over-expression is matched, a registry that only rebuilds aggregates and one
that only keeps over-expressions lead to the same document or to the same error. -/
theorem convertDocument_aggregateOver_eq_plainOver (config : Config) {source : Node}
    (hdelegates : ∀ n ∈ source.preorder, n.kind = SourceKind.overExpression.label →
      ∃ reason, n.matchOver = .delegate reason) :
    ∃ aggregate plain, Registry.ofConverters [Converter.aggregateOver] = .ok aggregate ∧
      Registry.ofConverters [Converter.plainOver] = .ok plain ∧
      (⟨aggregate, config⟩ : Conversion).convertDocument source =
        (⟨plain, config⟩ : Conversion).convertDocument source := by
  refine ⟨_, _, Registry.ofConverters_singleton _, Registry.ofConverters_singleton _, ?_⟩
  apply convertDocument_congr
  · rfl
  · intro n hn convert
    rw [ruleFor_holding, ruleFor_holding]
    by_cases hk : n.kind = SourceKind.overExpression.label
    · obtain ⟨reason, hmatch⟩ := hdelegates n hn hk
      rw [if_pos (show n.kind = Converter.aggregateOver.nodeKind from hk),
        if_pos (show n.kind = Converter.plainOver.nodeKind from hk)]
      exact Rule.apply_of_delegate hmatch
    · rw [if_neg (show n.kind ≠ Converter.aggregateOver.nodeKind from hk),
        if_neg (show n.kind ≠ Converter.plainOver.nodeKind from hk)]

/-- Whether a decision leaves an over-expression to the plain treatment. -/
instance (m : OverMatch) : Decidable (∃ reason, m = .delegate reason) :=
  match m with
  | .delegate reason => isTrue ⟨reason, rfl⟩
  | .rebuild _ => isFalse fun ⟨_, h⟩ => nomatch h

/-- A call of a function that is not rebuilt, over two parameters, and an over-expression without
parameters as its argument. -/
def lagOverTwoParameters : Node :=
  let raw := Node.leaf SourceKind.rawExpression.label
  SourceKind.overExpression.branchNode
    [callNode [⟨"lag", none⟩] [SourceKind.overExpression.branchNode [callNode [⟨"first_value", none⟩] [raw]]],
      SourceKind.overExpressionParams.branchNode [raw, raw]]

theorem convertDocument_aggregateOver_eq_plainOver_lag :
    (∀ n ∈ lagOverTwoParameters.preorder, n.kind = SourceKind.overExpression.label →
      ∃ reason, n.matchOver = .delegate reason) ∧
    ∃ aggregate plain, Registry.ofConverters [Converter.aggregateOver] = .ok aggregate ∧
      Registry.ofConverters [Converter.plainOver] = .ok plain ∧
      (⟨aggregate, {}⟩ : Conversion).convertDocument lagOverTwoParameters =
        (⟨plain, {}⟩ : Conversion).convertDocument lagOverTwoParameters := by
  have hdelegates : ∀ n ∈ lagOverTwoParameters.preorder, n.kind = SourceKind.overExpression.label →
      ∃ reason, n.matchOver = .delegate reason := by decide +kernel
  exact ⟨hdelegates, convertDocument_aggregateOver_eq_plainOver {} hdelegates⟩

end Conversion
end DialectConversion
