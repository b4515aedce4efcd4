import DialectConversion.Conversion.Document
import DialectConversion.Proofs.Conversion.Rules

/-! What conversions contribute: level by level what the rules make of the contributions one level down;
and which rule the standard settings choose for a kind. -/
namespace DialectConversion
set_option autoImplicit false
open Step

namespace Config

theorem enables_disabling (c : Config) (name : String) : (c.disabling name).enables name = false := by
  unfold enables disabling
  split
  · rename_i h
    rw [h]
    rfl
  · simp

theorem maxDepth_disabling (c : Config) (name : String) : (c.disabling name).maxDepth = c.maxDepth := by
  unfold disabling
  split <;> rfl

end Config

namespace Conversion

/-! ## Conversion -/

/-- What the conversion of a node adds when so many levels are left. -/
def contribution (cv : Conversion) (levels : Nat) (source : Node) : Contribution :=
  (cv.convertWithin levels source).contribution

theorem attaches_contribution (cv : Conversion) (levels : Nat) (source : Node) :
    (cv.convertWithin levels source).Attaches (cv.contribution levels source) := by
  induction levels generalizing source with
  | zero => exact Attaches.fail _
  | succ levels ih =>
    have h : (cv.convertWithin (levels + 1) source).Attaches
        ((cv.ruleFor source.kind).contribution (cv.contribution levels) source) :=
      ((cv.ruleFor source.kind).attaches_apply (fun n => (ih n).toAdds) source).deeper
    rw [contribution, h.contribution_eq]
    exact h

theorem contribution_zero (cv : Conversion) (source : Node) :
    cv.contribution 0 source = { error? := some (.depthLimitExceeded source.kind cv.config.maxDepth) } :=
  rfl

theorem contribution_succ (cv : Conversion) (levels : Nat) (source : Node) :
    cv.contribution (levels + 1) source =
      (cv.ruleFor source.kind).contribution (cv.contribution levels) source :=
  ((cv.ruleFor source.kind).attaches_apply (fun n => (cv.attaches_contribution levels n).toAdds)
    source).deeper.contribution_eq

theorem contribution_relabel {cv : Conversion} {source : Node} (h : cv.ruleFor source.kind = .relabel)
    (levels : Nat) :
    cv.contribution (levels + 1) source =
      let below := Contribution.inOrder (source.children.map (cv.contribution levels))
      ⟨[Node.mk ((mapLabel? source.kind).getD source.kind) source.attributes below.nodes],
        Rule.relabelFindings source ++ below.findings, below.error?⟩ := by
  rw [contribution_succ, h]
  rfl

theorem convertDocument_eq (cv : Conversion) (source : Node) :
    cv.convertDocument source =
      let c := cv.contribution cv.config.maxDepth source
      match c.error? with
      | some e => .error e
      | none => .ok ⟨Node.branch TargetKind.document.label c.nodes, c.findings⟩ := by
  have h := cv.attaches_contribution cv.config.maxDepth source
  unfold convertDocument convertNode
  simp only [Nat.sub_zero, h.error?, h.pass]
  rfl

theorem convertDocument_of_error {cv : Conversion} {source : Node} {e : ConversionError}
    (h : (cv.contribution cv.config.maxDepth source).error? = some e) :
    cv.convertDocument source = .error e := by
  simp only [convertDocument_eq, h]

theorem convertDocument_of_success {cv : Conversion} {source : Node}
    (h : (cv.contribution cv.config.maxDepth source).error? = none) :
    cv.convertDocument source =
      .ok ⟨Node.branch TargetKind.document.label (cv.contribution cv.config.maxDepth source).nodes,
        (cv.contribution cv.config.maxDepth source).findings⟩ := by
  simp only [convertDocument_eq, h]

/-! ## Two conversions -/

/-- Conversions whose rules do the same with each node of a tree are related on it level by level, if they
are related where the first has no levels left and the second has those that it is ahead. -/
theorem convertWithin_related {R : Step → Step → Prop} (hR : Step.Congruence R)
    (hdeeper : ∀ s t, R s t → R (Step.deeper s) (Step.deeper t)) {cv other : Conversion} (ahead : Nat)
    (hzero : ∀ n, R (cv.convertWithin 0 n) (other.convertWithin ahead n)) {source : Node}
    (hrules : ∀ n ∈ source.preorder, ∀ convert,
      (cv.ruleFor n.kind).apply convert n = (other.ruleFor n.kind).apply convert n)
    (levels : Nat) : R (cv.convertWithin levels source) (other.convertWithin (levels + ahead) source) := by
  induction levels generalizing source with
  | zero =>
    rw [Nat.zero_add]
    exact hzero source
  | succ levels ih =>
    rw [Nat.add_right_comm]
    have hparts : R ((cv.ruleFor source.kind).apply (cv.convertWithin levels) source)
        ((cv.ruleFor source.kind).apply (other.convertWithin (levels + ahead)) source) := by
      refine Rule.apply_congr hR fun cs hcs c hc => ih fun n hn => hrules n ?_
      exact Node.preorder_subset_of_mem_descendants (Rule.mem_descendants_of_mem_parts hcs hc) hn
    rw [hrules source source.mem_preorder_self (other.convertWithin (levels + ahead))] at hparts
    exact hdeeper _ _ hparts

/-! ## Small registries -/

theorem ruleFor_empty (config : Config) (kind : String) :
    (⟨{}, config⟩ : Conversion).ruleFor kind = .relabel := rfl

end Conversion

def Registry.holding (c : Converter) : Registry := ⟨NameMap.ofList [(c.nodeKind, c.toNamedRule)]⟩

theorem Registry.ofConverters_singleton (c : Converter) :
    Registry.ofConverters [c] = .ok (Registry.holding c) := rfl

namespace Conversion

theorem ruleFor_holding (c : Converter) (config : Config) (kind : String) :
    (⟨Registry.holding c, config⟩ : Conversion).ruleFor kind =
      if kind = c.nodeKind then c.rule else .relabel := by
  unfold ruleFor Registry.holding Registry.get? NameMap.ofList
  rw [List.foldl_cons, List.foldl_nil, NameMap.get?_set, NameMap.get?_empty]
  by_cases h : kind = c.nodeKind
  · rw [if_pos h, if_pos h]
  · rw [if_neg h, if_neg h]

/-! ## Standard settings -/

/-- The registry that settings make of the standard converters. -/
def standardRegistry (config : Config) : Registry :=
  ⟨NameMap.ofList (if config.enables Converter.aggregateOver.name then
    [(Converter.aggregateOver.nodeKind, Converter.aggregateOver.toNamedRule)] else [])⟩

/-- The conversion that settings make of the standard converters. -/
def standard (config : Config) : Conversion := ⟨standardRegistry config, config⟩

@[simp] theorem config_standard (config : Config) : (standard config).config = config := rfl

/-- Settings never make the standard converters get into each other's way. -/
theorem ofConfig_eq (config : Config) : ofConfig config = .ok (standard config) := by
  unfold ofConfig standard standardRegistry Converter.standard
  rw [List.filter_cons, List.filter_nil]
  cases config.enables Converter.aggregateOver.name with
  | true => rfl
  | false => rfl

theorem eq_of_ofConfig {config : Config} {cv : Conversion} (h : ofConfig config = .ok cv) :
    cv = standard config := by
  rw [ofConfig_eq] at h
  exact (Except.ok.inj h).symm

/-- Only over-expressions have a rule of their own, and only if it is not left out. -/
theorem ruleFor_standard (config : Config) (kind : String) :
    (standard config).ruleFor kind =
      if config.enables Converter.aggregateOver.name ∧ kind = SourceKind.overExpression.label
      then .rebuildAggregate else .relabel := by
  cases henabled : config.enables Converter.aggregateOver.name with
  | false =>
    have hempty : standard config = ⟨{}, config⟩ := by
      rw [standard, standardRegistry, henabled]
      rfl
    rw [hempty, ruleFor_empty, if_neg fun h => Bool.false_ne_true h.1]
  | true =>
    have hholding : standard config = ⟨Registry.holding Converter.aggregateOver, config⟩ := by
      rw [standard, standardRegistry, henabled]
      rfl
    rw [hholding, ruleFor_holding]
    by_cases hk : kind = SourceKind.overExpression.label
    · rw [if_pos (show kind = Converter.aggregateOver.nodeKind from hk), if_pos ⟨rfl, hk⟩]
      rfl
    · rw [if_neg (show kind ≠ Converter.aggregateOver.nodeKind from hk), if_neg fun h => hk h.2]

theorem ruleFor_standard_of_disabled {config : Config}
    (h : config.enables Converter.aggregateOver.name = false) (kind : String) :
    (standard config).ruleFor kind = .relabel := by
  rw [ruleFor_standard, h]
  simp

theorem ruleFor_standard_of_ne {k : SourceKind} (hk : k ≠ .overExpression) (config : Config) :
    (standard config).ruleFor k.label = .relabel := by
  rw [ruleFor_standard, if_neg]
  exact fun h => hk (SourceKind.label_injective h.2)

theorem ruleFor_standard_overExpression {config : Config}
    (h : config.enables Converter.aggregateOver.name = true) :
    (standard config).ruleFor SourceKind.overExpression.label = .rebuildAggregate := by
  rw [ruleFor_standard, if_pos ⟨h, rfl⟩]

end Conversion
end DialectConversion
