import DialectConversion.Proofs.Conversion.Walk

/-! What becomes of a tree under any registry. The document consists of copies of the nodes that are met, which
are met in the order in which the tree is written, and of nodes that the rules make of their own. These are of
the target vocabulary and have no attributes but the two spellings of a name. -/
namespace DialectConversion
set_option autoImplicit false

namespace Conversion

variable {cv : Conversion} {source : Node} {doc : ConvertedDocument}

/-- A document consists of the copies and the findings of the visits that it is made on. -/
theorem convertDocument_takenApart {p : Node → Bool} (hp : Rule.DropsMade p)
    (hdoc : cv.convertDocument source = .ok doc) :
    doc.root.bareNodes p = (cv.route.walk source 1).flatMap
        (fun v => ((cv.ruleFor v.node.kind).copies v.node).filter p) ∧
      doc.diagnostics = (cv.route.walk source 1).flatMap
        fun v => (cv.ruleFor v.node.kind).findings v.node := by
  rw [convertDocument_eq] at hdoc
  cases hsuccess : (cv.contribution cv.config.maxDepth source).error? with
  | some e => simp only [hsuccess, reduceCtorEq] at hdoc
  | none =>
    simp only [hsuccess] at hdoc
    obtain rfl := Except.ok.inj hdoc
    have happart := takenApart_contribution_of_success cv hp (Nat.add_comm 1 cv.config.maxDepth) hsuccess
    refine ⟨?_, congrArg Contribution.findings happart⟩
    show ((Node.leaf TargetKind.document.label).withChildren _).bareNodes p = _
    rw [Node.bareNodes_withChildren, hp.bareNodes_leaf, List.nil_append]
    exact congrArg Contribution.nodes happart

end Conversion

/-! ## Attributes -/

namespace Node

theorem filterMap_attribute?_bareNodes (name : String) (n : Node) :
    (n.bareNodes fun m => (m.attribute? name).isSome).filterMap (·.attribute? name) =
      n.preorder.filterMap (·.attribute? name) := by
  have hbare (m : Node) : (mk m.kind m.attributes []).attribute? name = m.attribute? name := rfl
  rw [bareNodes, List.filterMap_filter, List.filterMap_map]
  refine congrArg (List.filterMap · _) (funext fun m => ?_)
  simp only [Function.comp_apply, hbare]
  cases m.attribute? name <;> rfl

end Node

namespace Rule

variable {name : String}

theorem dropsMade_attribute? (htext : name ≠ AttributeName.text) (hvalue : name ≠ AttributeName.value) :
    DropsMade fun n => (n.attribute? name).isSome where
  leaf _ := rfl
  rebuiltName functionName := by
    have hnone : (rebuiltName functionName).attribute? name = none := by
      show ((({} : Attributes).set AttributeName.text functionName).set
        AttributeName.value functionName).get? name = none
      rw [NameMap.get?_set, if_neg hvalue, NameMap.get?_set, if_neg htext, NameMap.get?_empty]
    rw [hnone]
    rfl

theorem attribute?_copies_sublist (rule : Rule) (n : Node) :
    ((rule.copies n).filterMap (·.attribute? name)).Sublist (n.attribute? name).toList := by
  cases rule with
  | relabel =>
    rw [List.filterMap_eq_flatMap_toList, copies, List.flatMap_singleton]
    exact List.Sublist.refl _
  | keepOver => exact List.nil_sublist _
  | rebuildAggregate => exact List.nil_sublist _

end Rule

namespace Conversion

variable {cv : Conversion} {source : Node} {doc : ConvertedDocument}

/-- The values of an attribute in a document are, in order, among those in the tree it is made from. The
two spellings of a rebuilt name are the exception. -/
theorem convertDocument_attribute_sublist {name : String} (htext : name ≠ AttributeName.text)
    (hvalue : name ≠ AttributeName.value) (hdoc : cv.convertDocument source = .ok doc) :
    (doc.root.preorder.filterMap (·.attribute? name)).Sublist
      (source.preorder.filterMap (·.attribute? name)) := by
  obtain ⟨hroot, -⟩ := convertDocument_takenApart (Rule.dropsMade_attribute? htext hvalue) hdoc
  rw [← Node.filterMap_attribute?_bareNodes, hroot, List.filterMap_flatMap]
  have hcopies : ∀ v ∈ cv.route.walk source 1,
      ((((cv.ruleFor v.node.kind).copies v.node).filter fun m => (m.attribute? name).isSome).filterMap
        (·.attribute? name)).Sublist (v.node.attribute? name).toList :=
    fun v _ => (List.filter_sublist.filterMap _).trans (Rule.attribute?_copies_sublist _ v.node)
  have hvisits : ((cv.route.walk source 1).flatMap fun v => (v.node.attribute? name).toList) =
      ((cv.route.walk source 1).map Visit.node).filterMap (·.attribute? name) := by
    rw [List.filterMap_map, List.filterMap_eq_flatMap_toList]
    rfl
  refine (List.Sublist.flatMap_right _ hcopies).trans ?_
  rw [hvisits]
  exact (walk_sublist_preorder cv source 1).filterMap _

/-- A call that is rebuilt, over two parameters, with numbers as aliases in the order in which it is
written. -/
def numberedFirstValue : Node :=
  let numbered (kind : SourceKind) (number : String) (cs : List Node) : Node :=
    (kind.branchNode cs).withAttribute AttributeName.aliasName number
  let name := (numbered .namePart "3" []).withAttribute AttributeName.text "first_value"
  let arguments := numbered .functionArguments "4" [numbered .expressionList "5" [numbered .literal "6" []]]
  numbered .overExpression "1" [numbered .identifier "2" [name, arguments],
    numbered .overExpressionParams "7" [numbered .windowName "8" [], numbered .windowName "9" []]]

/-- Of nine aliases those on the arguments and on the first parameter are left. -/
theorem convertDocument_attribute_sublist_numbered :
    ∃ doc, (standard {}).convertDocument numberedFirstValue = .ok doc ∧
      doc.root.preorder.filterMap (·.attribute? AttributeName.aliasName) = ["5", "6", "8"] ∧
      ["5", "6", "8"].Sublist (numberedFirstValue.preorder.filterMap (·.attribute? AttributeName.aliasName)) := by
  let numbered (kind : TargetKind) (number : String) (cs : List Node) : Node :=
    (Node.branch kind.label cs).withAttribute AttributeName.aliasName number
  let arguments := numbered .expressionList "5" [numbered .literal "6" []]
  let name := (Rule.rebuiltName "FIRST_VALUE").withChild
    (Node.branch TargetKind.simpleIdentifierParams.label [arguments])
  let params := Node.branch TargetKind.overExpressionParams.label [numbered .windowName "8" []]
  let doc : ConvertedDocument := ⟨Node.branch TargetKind.document.label
    [Node.branch TargetKind.overExpression.label [name, params]], []⟩
  have hdoc : (standard {}).convertDocument numberedFirstValue = .ok doc := by decide +kernel
  have hvalues : doc.root.preorder.filterMap (·.attribute? AttributeName.aliasName) = ["5", "6", "8"] := by
    decide +kernel
  refine ⟨doc, hdoc, hvalues, ?_⟩
  rw [← hvalues]
  exact convertDocument_attribute_sublist (by decide) (by decide) hdoc

end Conversion

/-! ## Kinds outside the target vocabulary -/

/-- Whether a label is no label of the target vocabulary. -/
def isForeignLabel (label : String) : Bool := (TargetKind.ofLabel? label).isNone

theorem Node.map_kind_bareNodes (q : String → Bool) (n : Node) :
    (n.bareNodes fun m => q m.kind).map Node.kind = (n.preorder.map Node.kind).filter q := by
  rw [bareNodes, List.filter_map, List.map_map, List.filter_map]
  rfl

/-- The kind that a warning reports as unknown. -/
def Diagnostic.unmappedKind? (d : Diagnostic) : Option String :=
  if d.severity = .warning ∧ d.code = unmappedCode then d.nodeKind? else none

namespace Rule

theorem dropsMade_isForeignLabel : DropsMade fun n => isForeignLabel n.kind where
  leaf k := by
    have hk : TargetKind.ofLabel? (Node.leaf k.label).kind = some k := TargetKind.ofLabel?_label k
    rw [isForeignLabel, hk]
    rfl
  rebuiltName functionName := by
    have hk : TargetKind.ofLabel? (rebuiltName functionName).kind = some .simpleIdentifier :=
      TargetKind.ofLabel?_label .simpleIdentifier
    rw [isForeignLabel, hk]
    rfl

/-- A rule reports the node that it copies exactly if the copy has a foreign label. -/
theorem foreign_copies_eq_findings (rule : Rule) (n : Node) :
    ((rule.copies n).map Node.kind).filter isForeignLabel =
      ((rule.findings n).filterMap Diagnostic.unmappedKind?).filter isForeignLabel := by
  cases rule with
  | keepOver => rfl
  | rebuildAggregate => rfl
  | relabel =>
    have hreported : ((relabelFindings n).filterMap Diagnostic.unmappedKind?) =
        if (mapLabel? n.kind).isNone then [n.kind] else [] := by
      unfold relabelFindings
      rw [List.filterMap_append]
      by_cases hraw : n.kind = SourceKind.rawStatement.label
      · rw [hraw, mapLabel?_label, if_pos rfl]
        rfl
      · rw [if_neg hraw]
        cases mapLabel? n.kind <;> rfl
    simp only [copies, findings, List.map_cons, List.map_nil, Node.kind_mk, hreported]
    cases hlabel : mapLabel? n.kind with
    | none => rfl
    | some label =>
      obtain ⟨k, -, rfl⟩ := Option.map_eq_some_iff.1 hlabel
      have hforeign : isForeignLabel k.target.label = false := by
        rw [isForeignLabel, TargetKind.ofLabel?_label]
        rfl
      simp [hforeign]

end Rule

namespace Conversion

variable {cv : Conversion} {source : Node} {doc : ConvertedDocument}

/-- Of the labels in a document those outside the target vocabulary are, one by one and in order, those
that warnings report as unknown. -/
theorem convertDocument_reports_foreign_labels (hdoc : cv.convertDocument source = .ok doc) :
    (doc.root.preorder.map Node.kind).filter isForeignLabel =
      (doc.diagnostics.filterMap Diagnostic.unmappedKind?).filter isForeignLabel := by
  obtain ⟨hroot, hfindings⟩ := convertDocument_takenApart Rule.dropsMade_isForeignLabel hdoc
  rw [← Node.map_kind_bareNodes, hroot, hfindings, List.map_flatMap, List.filterMap_flatMap,
    List.filter_flatMap]
  refine List.flatMap_congr fun v _ => ?_
  rw [← Rule.foreign_copies_eq_findings, List.filter_map]
  rfl

/-- A statement of an unknown kind that holds a call that is rebuilt, with a parameter of an unknown kind
that is left out, and a node whose label only the target vocabulary knows. -/
def modelAroundFirstValue : Node :=
  Node.branch "model-clause"
    [SourceKind.overExpression.branchNode
      [callNode [⟨"first_value", none⟩] [Node.leaf "hint"], SourceKind.overExpressionParams.branchNode
        [Node.leaf SourceKind.windowName.label, Node.leaf "pivot-clause"]],
      Node.leaf TargetKind.script.label]

theorem convertDocument_reports_foreign_labels_model :
    ∃ doc, (standard {}).convertDocument modelAroundFirstValue = .ok doc ∧
      doc.diagnostics.filterMap Diagnostic.unmappedKind? = ["model-clause", "hint", "script"] ∧
      (doc.root.preorder.map Node.kind).filter isForeignLabel = ["model-clause", "hint"] := by
  let name := (Rule.rebuiltName "FIRST_VALUE").withChild
    (Node.branch TargetKind.simpleIdentifierParams.label
      [Node.branch TargetKind.expressionList.label [Node.leaf "hint"]])
  let params := Node.branch TargetKind.overExpressionParams.label [Node.leaf TargetKind.windowName.label]
  let doc : ConvertedDocument := ⟨Node.branch TargetKind.document.label
    [Node.branch "model-clause" [Node.branch TargetKind.overExpression.label [name, params],
      Node.leaf TargetKind.script.label]],
    [Diagnostic.unmapped "model-clause", Diagnostic.unmapped "hint", Diagnostic.unmapped "script"]⟩
  have hdoc : (standard {}).convertDocument modelAroundFirstValue = .ok doc := by decide +kernel
  have hreported : doc.diagnostics.filterMap Diagnostic.unmappedKind? =
      ["model-clause", "hint", "script"] := by decide +kernel
  refine ⟨doc, hdoc, hreported, ?_⟩
  rw [convertDocument_reports_foreign_labels hdoc, hreported]
  decide +kernel

end Conversion
end DialectConversion
