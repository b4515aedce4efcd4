import DialectConversion.Proofs.Conversion.Relabelling

/-! Over-expressions that are kept, compared with over-expressions that are relabelled. Without attributes
the outcome is the same, and keeping needs no more levels: it does not convert the OVER parameters as a node
of their own, but makes their container itself. -/
namespace DialectConversion
set_option autoImplicit false

namespace Node

/-- No over-expression of the tree has attributes, and of those in the usual shape neither have the OVER
parameters. -/
def HasBareOvers (source : Node) : Prop :=
  ∀ n ∈ source.preorder, n.kind = SourceKind.overExpression.label →
    n.attributes.isEmpty ∧ ∀ parts ∈ n.usualParts?, parts.2.attributes.isEmpty

instance (source : Node) : Decidable source.HasBareOvers :=
  inferInstanceAs (Decidable (∀ n ∈ source.preorder, n.kind = SourceKind.overExpression.label →
    n.attributes.isEmpty ∧ ∀ parts ∈ n.usualParts?, parts.2.attributes.isEmpty))

theorem HasBareOvers.of_mem_descendants {n c : Node} (h : n.HasBareOvers) (hc : c ∈ n.descendants) :
    c.HasBareOvers := fun d hd => h d (preorder_subset_of_mem_descendants hc hd)

end Node

namespace Rule

/-- An over-expression whose parts are relabelled is relabelled when it is kept. -/
theorem keepOverContribution_eq_relabelled {f : Node → Contribution} {n : Node}
    (hkind : n.kind = SourceKind.overExpression.label) (hattributes : n.attributes.isEmpty)
    (hparams : ∀ parts ∈ n.usualParts?, parts.2.attributes.isEmpty)
    (hf : ∀ c ∈ n.keptParts, f c = ⟨[c.relabelled], c.relabelFindings, none⟩) :
    keepOverContribution f n = ⟨[n.relabelled], n.relabelFindings, none⟩ := by
  obtain ⟨k, a, cs⟩ := n
  obtain rfl : k = SourceKind.overExpression.label := hkind
  obtain rfl : a = {} := NameMap.eq_empty_of_isEmpty hattributes
  rw [Node.relabelFindings_mk_label (by decide), Node.relabelled_mk_label]
  unfold keepOverContribution
  unfold Node.keptParts at hf
  cases husual : (Node.mk SourceKind.overExpression.label {} cs).usualParts? with
  | none =>
    rw [husual] at hf
    have hbelow := Contribution.inOrder_map_of_success hf
    simp only [hbelow]
    rfl
  | some found =>
    obtain ⟨function, ⟨k, a, ps⟩⟩ := found
    obtain ⟨hchildren, hkind⟩ := Node.usualParts?_eq_some husual
    obtain rfl : cs = [function, Node.mk k a ps] := hchildren
    obtain rfl : k = SourceKind.overExpressionParams.label := hkind
    obtain rfl : a = {} := NameMap.eq_empty_of_isEmpty (hparams _ husual)
    rw [husual] at hf
    have hfunction := hf function List.mem_cons_self
    have hbelow : Contribution.inOrder (ps.map f) =
        ⟨ps.map Node.relabelled, ps.flatMap Node.relabelFindings, none⟩ :=
      Contribution.inOrder_map_of_success fun c hc => hf c (List.mem_cons_of_mem function hc)
    have hparamsFindings := Node.relabelFindings_mk_label
      (show SourceKind.overExpressionParams ≠ .rawStatement by decide) {} ps
    have hparamsRelabelled := Node.relabelled_mk_label .overExpressionParams {} ps
    simp only [List.map_cons, List.map_nil, List.flatMap_cons, List.flatMap_nil, List.append_nil,
      hparamsFindings, hparamsRelabelled, hfunction, Node.children_mk, hbelow]
    rfl

end Rule

namespace Conversion

theorem contribution_plainOver (config : Config) {levels : Nat} {n : Node} (hbare : n.HasBareOvers)
    (hn : n.height ≤ levels) :
    (⟨Registry.holding Converter.plainOver, config⟩ : Conversion).contribution levels n =
      ⟨[n.relabelled], n.relabelFindings, none⟩ := by
  -- What is converted for an over-expression may lie two levels below it, so the induction is on the levels.
  induction levels generalizing n with
  | zero => exact absurd hn (Nat.not_le.2 n.height_pos)
  | succ levels ih =>
    have hbelow : ∀ c ∈ n.descendants,
        (⟨Registry.holding Converter.plainOver, config⟩ : Conversion).contribution levels c =
          ⟨[c.relabelled], c.relabelFindings, none⟩ := by
      intro c hc
      have hlt := Node.height_lt_of_mem_descendants hc
      exact ih (hbare.of_mem_descendants hc) (by omega)
    rw [contribution_succ, ruleFor_holding]
    by_cases hk : n.kind = SourceKind.overExpression.label
    · obtain ⟨hattributes, hparams⟩ := hbare n n.mem_preorder_self hk
      rw [if_pos (show n.kind = Converter.plainOver.nodeKind from hk)]
      exact Rule.keepOverContribution_eq_relabelled hk hattributes hparams fun c hc =>
        hbelow c (Node.mem_descendants_of_mem_keptParts hc)
    · rw [if_neg (show n.kind ≠ Converter.plainOver.nodeKind from hk)]
      exact Rule.relabelContribution_eq_relabelled fun c hc =>
        hbelow c (Node.mem_descendants_of_mem_children hc)

/-- A document that an empty registry leads to is also the one that a registry leads to which only keeps
over-expressions, if over-expressions and their usual OVER parameters have no attributes. -/
theorem convertDocument_plainOver_of_empty (config : Config) {source : Node} {doc : ConvertedDocument}
    (hbare : source.HasBareOvers) (hdoc : (⟨{}, config⟩ : Conversion).convertDocument source = .ok doc) :
    ∃ plain, Registry.ofConverters [Converter.plainOver] = .ok plain ∧
      (⟨plain, config⟩ : Conversion).convertDocument source = .ok doc := by
  obtain ⟨hheight, rfl⟩ := convertDocument_relabels (ruleFor_empty config) hdoc
  have h := contribution_plainOver config hbare hheight
  refine ⟨_, Registry.ofConverters_singleton _, ?_⟩
  rw [convertDocument_of_success (by rw [h]), h]

/-- A call over two parameters, the second of which holds an over-expression of another shape around a node
of an unknown kind. -/
def lagOverUnknownKind : Node :=
  let raw := Node.leaf SourceKind.rawExpression.label
  SourceKind.overExpression.branchNode
    [callNode [⟨"lag", none⟩] [raw], SourceKind.overExpressionParams.branchNode
      [raw, SourceKind.overExpression.branchNode [raw, Node.leaf "model-clause", raw]]]

theorem convertDocument_plainOver_of_empty_lag :
    lagOverUnknownKind.HasBareOvers ∧
    ∃ doc plain, (⟨{}, {}⟩ : Conversion).convertDocument lagOverUnknownKind = .ok doc ∧
      doc.diagnostics = [Diagnostic.unmapped "model-clause"] ∧
      Registry.ofConverters [Converter.plainOver] = .ok plain ∧
      (⟨plain, {}⟩ : Conversion).convertDocument lagOverUnknownKind = .ok doc := by
  have hbare : lagOverUnknownKind.HasBareOvers := by decide +kernel
  have hdoc := convertDocument_of_height_le (ruleFor_empty {}) (n := lagOverUnknownKind) (by decide +kernel)
  obtain ⟨plain, hplain, hconverted⟩ := convertDocument_plainOver_of_empty {} hbare hdoc
  exact ⟨hbare, _, plain, hdoc, by decide +kernel, hplain, hconverted⟩

/-- Under a limit that an empty registry exceeds, keeping may still succeed. -/
example :
    let source := SourceKind.overExpression.branchNode
      [Node.leaf "f", SourceKind.overExpressionParams.branchNode [Node.leaf "x"]]
    (⟨{}, { maxDepth := 2 }⟩ : Conversion).convertDocument source = .error (.depthLimitExceeded "x" 2) ∧
      ((⟨Registry.holding Converter.plainOver, { maxDepth := 2 }⟩ : Conversion).convertDocument
        source).toOption.isSome := by decide +kernel

end Conversion
end DialectConversion
