import DialectConversion.Conversion.Rule
import DialectConversion.Proofs.Conversion.Contribution
import DialectConversion.Proofs.Lowering.Grammar
import DialectConversion.Proofs.Tree.Preorder

/-! The rules by what they convert and what they contribute. A rule converts some of the nodes below its
node, in the order in which they are written, or refuses because a part is missing. What it contributes is
put together from what the conversion of these nodes contributes: its copies, its findings and its error are
those of the nodes in order, behind its own. -/
namespace DialectConversion
set_option autoImplicit false
open Step

/-! ## The parts of an over-expression -/

namespace Node

/-- The function and the OVER parameters of an over-expression of the usual shape. -/
def usualParts? (n : Node) : Option (Node × Node) :=
  match n.children with
  | [function, params] =>
    if params.kind = SourceKind.overExpressionParams.label then some (function, params) else none
  | _ => none

/-- The nodes that are converted where an over-expression is kept: in the usual shape its function and
each of its OVER parameters, in any other shape its children. -/
def keptParts (n : Node) : List Node :=
  match n.usualParts? with
  | some (function, params) => function :: params.children
  | none => n.children

theorem usualParts?_eq_some {n function params : Node} (h : n.usualParts? = some (function, params)) :
    n.children = [function, params] ∧ params.kind = SourceKind.overExpressionParams.label := by
  unfold usualParts? at h
  split at h
  · rename_i hchildren
    split at h
    · rename_i hparams
      obtain ⟨rfl, rfl⟩ := Prod.mk.inj (Option.some.inj h)
      exact ⟨hchildren, hparams⟩
    · exact absurd h nofun
  · exact absurd h nofun

theorem keptParts_sublist (n : Node) : (n.keptParts.flatMap preorder).Sublist n.descendants := by
  unfold keptParts
  split
  · rename_i function params h
    rw [descendants, (usualParts?_eq_some h).1, List.flatMap_cons, List.flatMap_cons, List.flatMap_singleton]
    exact (List.Sublist.refl _).append params.descendants_sublist_preorder
  · exact List.Sublist.refl _

theorem mem_descendants_of_mem_keptParts {n c : Node} (hc : c ∈ n.keptParts) : c ∈ n.descendants :=
  n.keptParts_sublist.subset (List.mem_flatMap.2 ⟨c, hc, c.mem_preorder_self⟩)

/-- What is rebuilt are the children of an over-expression that has two of them. -/
theorem children_of_matchOver {n : Node} {m : MatchedOver} (h : n.matchOver = .rebuild m) :
    n.children = [m.functionIdentifier, m.overParams] := by
  unfold matchOver at h
  split at h
  · rename_i hchildren
    split at h
    · exact absurd h nofun
    · split at h
      · exact absurd h nofun
      · split at h
        · obtain rfl := OverMatch.rebuild.inj h
          exact hchildren
        · exact absurd h nofun
  · exact absurd h nofun

end Node

namespace MatchedOver

/-- The list of arguments and the first OVER parameter of a matched over-expression, or the one of them
that is missing. The arguments are looked for first. -/
def parts? (m : MatchedOver) : Except String (Node × Node) :=
  match m.functionIdentifier.findDescendant? SourceKind.expressionList.label with
  | none => .error "expression-list under the function identifier"
  | some arguments =>
    match m.overParams.firstChild? with
    | none => .error "child under the OVER parameters"
    | some parameter => .ok (arguments, parameter)

theorem parts?_eq_ok {m : MatchedOver} {arguments parameter : Node}
    (h : m.parts? = .ok (arguments, parameter)) :
    m.functionIdentifier.findDescendant? SourceKind.expressionList.label = some arguments ∧
      m.overParams.firstChild? = some parameter := by
  unfold parts? at h
  split at h
  · exact absurd h nofun
  · rename_i harguments
    split at h
    · exact absurd h nofun
    · rename_i hparameter
      obtain ⟨rfl, rfl⟩ := Prod.mk.inj (Except.ok.inj h)
      exact ⟨harguments, hparameter⟩

end MatchedOver

/-! ## What rules convert -/

namespace Rule

/-- The nodes that a rule converts in the place of its node, in order, or the part that it misses. -/
def parts : Rule → Node → Except String (List Node)
  | relabel, n => .ok n.children
  | keepOver, n => .ok n.keptParts
  | rebuildAggregate, n =>
    match n.matchOver with
    | .rebuild m => m.parts?.map fun (arguments, parameter) => [arguments, parameter]
    | .delegate _ => .ok n.keptParts

/-- The findings of a rule on its own node. -/
def findings : Rule → Node → List Diagnostic
  | relabel, n => relabelFindings n
  | keepOver, _ => []
  | rebuildAggregate, _ => []

theorem parts_of_delegate {n : Node} {reason : DelegateReason} (h : n.matchOver = .delegate reason) :
    rebuildAggregate.parts n = .ok n.keptParts := by
  simp only [parts, h]

theorem parts_of_rebuild {n : Node} {m : MatchedOver} (h : n.matchOver = .rebuild m) :
    rebuildAggregate.parts n = m.parts?.map fun (arguments, parameter) => [arguments, parameter] := by
  simp only [parts, h]

/-- What a rule converts lies below its node, in the order in which it is written. -/
theorem parts_sublist {rule : Rule} {n : Node} {cs : List Node} (h : rule.parts n = .ok cs) :
    (cs.flatMap Node.preorder).Sublist n.descendants := by
  cases rule with
  | relabel =>
    obtain rfl := Except.ok.inj h
    exact List.Sublist.refl _
  | keepOver =>
    obtain rfl := Except.ok.inj h
    exact n.keptParts_sublist
  | rebuildAggregate =>
    cases hmatch : n.matchOver with
    | delegate reason =>
      rw [parts_of_delegate hmatch] at h
      obtain rfl := Except.ok.inj h
      exact n.keptParts_sublist
    | rebuild m =>
      rw [parts_of_rebuild hmatch] at h
      cases hparts : m.parts? with
      | error part =>
        rw [hparts] at h
        exact absurd h nofun
      | ok found =>
        obtain ⟨arguments, parameter⟩ := found
        obtain ⟨harguments, hparameter⟩ := MatchedOver.parts?_eq_ok hparts
        rw [hparts] at h
        obtain rfl : [arguments, parameter] = cs := Except.ok.inj h
        have hfirst : arguments.preorder.Sublist m.functionIdentifier.preorder :=
          (Node.preorder_sublist_of_mem_descendants
            (Node.mem_descendants_of_findDescendant? _ harguments)).trans
            m.functionIdentifier.descendants_sublist_preorder
        have hsecond : parameter.preorder.Sublist m.overParams.preorder :=
          (Node.preorder_sublist_of_mem (List.mem_of_head? hparameter)).trans
            m.overParams.descendants_sublist_preorder
        rw [Node.descendants, Node.children_of_matchOver hmatch, List.flatMap_cons, List.flatMap_singleton,
          List.flatMap_cons, List.flatMap_singleton]
        exact hfirst.append hsecond

theorem mem_descendants_of_mem_parts {rule : Rule} {n c : Node} {cs : List Node}
    (h : rule.parts n = .ok cs) (hc : c ∈ cs) : c ∈ n.descendants :=
  (parts_sublist h).subset (List.mem_flatMap.2 ⟨c, hc, c.mem_preorder_self⟩)

section
variable {convert other : Node → Step} {source : Node}

theorem apply_of_delegate {reason : DelegateReason} (h : source.matchOver = .delegate reason) :
    rebuildAggregate.apply convert source = keepOver.apply convert source := by
  simp only [apply, h]

theorem apply_of_rebuild {m : MatchedOver} (h : source.matchOver = .rebuild m) :
    rebuildAggregate.apply convert source = rebuildOverExpression convert source m := by
  simp only [apply, h]

theorem keepOverExpression_of_usual {function params : Node}
    (h : source.usualParts? = some (function, params)) :
    keepOverExpression convert source =
      Step.under (Node.leaf TargetKind.overExpression.label) ((convert function).andThen
        (Step.under (Node.leaf TargetKind.overExpressionParams.label) (children convert params))) := by
  obtain ⟨hchildren, hparams⟩ := Node.usualParts?_eq_some h
  simp only [keepOverExpression, hchildren, if_pos hparams]

theorem keepOverExpression_of_other (h : source.usualParts? = none) :
    keepOverExpression convert source =
      Step.under (Node.leaf TargetKind.overExpression.label) (children convert source) := by
  rcases hchildren : source.children with _ | ⟨function, _ | ⟨params, _ | ⟨third, rest⟩⟩⟩
  case cons.cons.nil =>
    have hparams : params.kind ≠ SourceKind.overExpressionParams.label := by
      intro hkind
      simp only [Node.usualParts?, hchildren, if_pos hkind] at h
      exact absurd h nofun
    simp only [keepOverExpression, hchildren, if_neg hparams]
  all_goals simp only [keepOverExpression, hchildren]

theorem rebuildOverExpression_of_parts {m : MatchedOver} {arguments parameter : Node}
    (h : m.parts? = .ok (arguments, parameter)) :
    rebuildOverExpression convert source m =
      Step.under (Node.leaf TargetKind.overExpression.label)
        ((Step.under (rebuiltName m.functionName)
            (Step.under (Node.leaf TargetKind.simpleIdentifierParams.label) (convert arguments))).andThen
          (Step.under (Node.leaf TargetKind.overExpressionParams.label) (convert parameter))) := by
  obtain ⟨harguments, hparameter⟩ := MatchedOver.parts?_eq_ok h
  simp only [rebuildOverExpression, harguments, hparameter]

theorem rebuildOverExpression_of_missing {m : MatchedOver} {part : String} (h : m.parts? = .error part) :
    rebuildOverExpression convert source m = Step.fail (.missingSubstructure source.kind part) := by
  cases harguments : m.functionIdentifier.findDescendant? SourceKind.expressionList.label with
  | none =>
    simp only [MatchedOver.parts?, harguments] at h
    obtain rfl := Except.error.inj h
    simp only [rebuildOverExpression, harguments]
  | some arguments =>
    cases hparameter : m.overParams.firstChild? with
    | none =>
      simp only [MatchedOver.parts?, harguments, hparameter] at h
      obtain rfl := Except.error.inj h
      simp only [rebuildOverExpression, harguments, hparameter]
    | some parameter =>
      simp only [MatchedOver.parts?, harguments, hparameter] at h
      exact absurd h nofun

/-! ### Only the parts count -/

variable {R : Step → Step → Prop}

theorem children_congr (hR : Step.Congruence R) (h : ∀ c ∈ source.children, R (convert c) (other c)) :
    R (children convert source) (children other source) :=
  hR.inOrder h

theorem keepOverExpression_congr (hR : Step.Congruence R)
    (h : ∀ c ∈ source.keptParts, R (convert c) (other c)) :
    R (keepOverExpression convert source) (keepOverExpression other source) := by
  unfold Node.keptParts at h
  cases husual : source.usualParts? with
  | none =>
    rw [husual] at h
    rw [keepOverExpression_of_other husual, keepOverExpression_of_other husual]
    exact hR.under _ (children_congr hR h)
  | some found =>
    obtain ⟨function, params⟩ := found
    rw [husual] at h
    have hfunction := h function List.mem_cons_self
    have hparams : R (children convert params) (children other params) :=
      children_congr hR fun c hc => h c (List.mem_cons_of_mem function hc)
    rw [keepOverExpression_of_usual husual, keepOverExpression_of_usual husual]
    exact hR.under _ (hR.andThen hfunction (hR.under _ hparams))

theorem apply_congr (hR : Step.Congruence R) {rule : Rule}
    (h : ∀ cs, rule.parts source = .ok cs → ∀ c ∈ cs, R (convert c) (other c)) :
    R (rule.apply convert source) (rule.apply other source) := by
  cases rule with
  | relabel =>
    have hreports : R (Step.inOrder ((relabelFindings source).map Step.report))
        (Step.inOrder ((relabelFindings source).map Step.report)) :=
      hR.inOrder fun d _ => hR.report d
    exact hR.andThen hreports (hR.under _ (children_congr hR (h _ rfl)))
  | keepOver => exact keepOverExpression_congr hR (h _ rfl)
  | rebuildAggregate =>
    cases hmatch : source.matchOver with
    | delegate reason =>
      rw [parts_of_delegate hmatch] at h
      rw [apply_of_delegate hmatch, apply_of_delegate hmatch]
      exact keepOverExpression_congr hR (h _ rfl)
    | rebuild m =>
      rw [parts_of_rebuild hmatch] at h
      rw [apply_of_rebuild hmatch, apply_of_rebuild hmatch]
      cases hparts : m.parts? with
      | error part =>
        rw [rebuildOverExpression_of_missing hparts, rebuildOverExpression_of_missing hparts]
        exact hR.missing _ _
      | ok found =>
        obtain ⟨arguments, parameter⟩ := found
        rw [hparts] at h
        have hboth := h [arguments, parameter] rfl
        have harguments := hboth arguments List.mem_cons_self
        have hparameter := hboth parameter (List.mem_cons_of_mem _ List.mem_cons_self)
        rw [rebuildOverExpression_of_parts hparts, rebuildOverExpression_of_parts hparts]
        exact hR.under _ (hR.andThen (hR.under _ (hR.under _ harguments)) (hR.under _ hparameter))

end

/-! ## What rules contribute -/

/-- A relabelled node with what its children contribute, behind its own findings. -/
def relabelContribution (f : Node → Contribution) (source : Node) : Contribution :=
  let below := Contribution.inOrder (source.children.map f)
  ⟨[Node.mk ((mapLabel? source.kind).getD source.kind) source.attributes below.nodes],
    relabelFindings source ++ below.findings, below.error?⟩

def keepOverContribution (f : Node → Contribution) (source : Node) : Contribution :=
  Contribution.under (Node.leaf TargetKind.overExpression.label) <|
    match source.usualParts? with
    | some (function, params) =>
      (f function).andThen <| (Contribution.inOrder (params.children.map f)).under
        (Node.leaf TargetKind.overExpressionParams.label)
    | none => Contribution.inOrder (source.children.map f)

/-- A rebuilt over-expression, or nothing where a part of it is missing. -/
def rebuildContribution (f : Node → Contribution) (source : Node) (m : MatchedOver) : Contribution :=
  match m.parts? with
  | .error part => { error? := some (.missingSubstructure source.kind part) }
  | .ok (arguments, parameter) =>
    ((((f arguments).under (Node.leaf TargetKind.simpleIdentifierParams.label)).under
        (rebuiltName m.functionName)).andThen
      ((f parameter).under (Node.leaf TargetKind.overExpressionParams.label))).under
      (Node.leaf TargetKind.overExpression.label)

/-- What a rule makes of the contributions of other nodes. -/
def contribution (rule : Rule) (f : Node → Contribution) (source : Node) : Contribution :=
  match rule with
  | relabel => relabelContribution f source
  | keepOver => keepOverContribution f source
  | rebuildAggregate =>
    match source.matchOver with
    | .rebuild m => rebuildContribution f source m
    | .delegate _ => keepOverContribution f source

theorem contribution_of_delegate {f : Node → Contribution} {source : Node} {reason : DelegateReason}
    (h : source.matchOver = .delegate reason) :
    rebuildAggregate.contribution f source = keepOverContribution f source := by
  simp only [contribution, h]

theorem contribution_of_rebuild {f : Node → Contribution} {source : Node} {m : MatchedOver}
    (h : source.matchOver = .rebuild m) :
    rebuildAggregate.contribution f source = rebuildContribution f source m := by
  simp only [contribution, h]

section
variable {convert : Node → Step} {f : Node → Contribution}

theorem adds_children (h : ∀ n, (convert n).Adds (f n)) (source : Node) :
    (children convert source).Adds (.inOrder (source.children.map f)) :=
  Adds.inOrder fun c _ => h c

theorem adds_reports (ds : List Diagnostic) :
    (Step.inOrder (ds.map Step.report)).Adds { findings := ds } := by
  induction ds with
  | nil => exact Adds.done
  | cons d ds ih => exact (Adds.report d).andThen ih

theorem attaches_keepOverExpression (h : ∀ n, (convert n).Adds (f n)) (source : Node) :
    (keepOverExpression convert source).Attaches (keepOverContribution f source) := by
  unfold keepOverContribution
  cases husual : source.usualParts? with
  | none =>
    rw [keepOverExpression_of_other husual]
    exact Attaches.under _ (adds_children h source)
  | some found =>
    obtain ⟨function, params⟩ := found
    rw [keepOverExpression_of_usual husual]
    exact Attaches.under _ ((h function).andThen ((adds_children h params).under _))

theorem attaches_rebuildOverExpression (h : ∀ n, (convert n).Adds (f n)) (source : Node)
    (m : MatchedOver) :
    (rebuildOverExpression convert source m).Attaches (rebuildContribution f source m) := by
  unfold rebuildContribution
  cases hparts : m.parts? with
  | error part =>
    rw [rebuildOverExpression_of_missing hparts]
    exact Attaches.fail _
  | ok found =>
    obtain ⟨arguments, parameter⟩ := found
    rw [rebuildOverExpression_of_parts hparts]
    exact Attaches.under _ ((((h arguments).under _).under _).andThen ((h parameter).under _))

/-- Every rule adds a single child and hands it back, unless it is stopped. What it adds does not depend
on the state, if that is so for the conversion of other nodes. -/
theorem attaches_apply (rule : Rule) (h : ∀ n, (convert n).Adds (f n)) (source : Node) :
    (rule.apply convert source).Attaches (rule.contribution f source) := by
  cases rule with
  | relabel => exact Attaches.after (adds_reports _) (Attaches.under _ (adds_children h source))
  | keepOver => exact attaches_keepOverExpression h source
  | rebuildAggregate =>
    cases hmatch : source.matchOver with
    | rebuild m =>
      rw [apply_of_rebuild hmatch, contribution_of_rebuild hmatch]
      exact attaches_rebuildOverExpression h source m
    | delegate reason =>
      rw [apply_of_delegate hmatch, contribution_of_delegate hmatch]
      exact attaches_keepOverExpression h source

end

/-! ### What rules contribute by themselves -/

/-- The node that a rule makes of its own node, without children, if it copies it. -/
def copies : Rule → Node → List Node
  | relabel, n => [Node.mk ((mapLabel? n.kind).getD n.kind) n.attributes []]
  | keepOver, _ => []
  | rebuildAggregate, _ => []

theorem bareNodes_copies (rule : Rule) (p : Node → Bool) (n : Node) :
    (rule.copies n).flatMap (Node.bareNodes p) = (rule.copies n).filter p := by
  cases rule with
  | relabel => rw [copies, List.flatMap_singleton, Node.bareNodes_mk, List.flatMap_nil, List.append_nil]
  | keepOver => rfl
  | rebuildAggregate => rfl

/-- The test drops the nodes that rules make of their own. -/
structure DropsMade (p : Node → Bool) : Prop where
  leaf : ∀ k : TargetKind, p (Node.leaf k.label) = false
  rebuiltName : ∀ functionName, p (rebuiltName functionName) = false

section
variable {p : Node → Bool} (hp : DropsMade p) (f : Node → Contribution) (source : Node)
include hp

theorem DropsMade.bareNodes_leaf (k : TargetKind) : (Node.leaf k.label).bareNodes p = [] :=
  Node.bareNodes_of_childless rfl (hp.leaf k)

theorem DropsMade.bareNodes_rebuiltName (functionName : String) :
    (Rule.rebuiltName functionName).bareNodes p = [] :=
  Node.bareNodes_of_childless rfl (hp.rebuiltName functionName)

theorem takenApart_keepOverContribution :
    (keepOverContribution f source).takenApart p =
      Contribution.inOrder (source.keptParts.map fun c => (f c).takenApart p) := by
  unfold keepOverContribution Node.keptParts
  rw [Contribution.takenApart_under p (hp.bareNodes_leaf _)]
  cases source.usualParts? with
  | none => exact Contribution.takenApart_inOrder p f source.children
  | some found =>
    obtain ⟨function, params⟩ := found
    simp only
    rw [Contribution.takenApart_andThen, Contribution.takenApart_under p (hp.bareNodes_leaf _),
      Contribution.takenApart_inOrder, List.map_cons, Contribution.inOrder_cons]

theorem takenApart_rebuildContribution {m : MatchedOver} {arguments parameter : Node}
    (h : m.parts? = .ok (arguments, parameter)) :
    (rebuildContribution f source m).takenApart p =
      Contribution.inOrder ([arguments, parameter].map fun c => (f c).takenApart p) := by
  simp only [rebuildContribution, h]
  rw [Contribution.takenApart_under p (hp.bareNodes_leaf _), Contribution.takenApart_andThen,
    Contribution.takenApart_under p (hp.bareNodes_rebuiltName _),
    Contribution.takenApart_under p (hp.bareNodes_leaf _),
    Contribution.takenApart_under p (hp.bareNodes_leaf _), List.map_cons, List.map_singleton,
    Contribution.inOrder_cons, Contribution.inOrder_singleton]

/-- Taken apart, a rule contributes its own findings and the copy of its node, and then what the conversion
of its parts contributes; or only the error that a part is missing. -/
theorem takenApart_contribution (rule : Rule) :
    (rule.contribution f source).takenApart p =
      match rule.parts source with
      | .error part => { error? := some (.missingSubstructure source.kind part) }
      | .ok cs => (({ nodes := rule.copies source, findings := rule.findings source } :
          Contribution).takenApart p).andThen
          (Contribution.inOrder (cs.map fun c => (f c).takenApart p)) := by
  cases rule with
  | relabel =>
    simp only [parts]
    rw [← Contribution.takenApart_inOrder]
    simp only [contribution, relabelContribution, Contribution.takenApart, copies, findings,
      List.flatMap_singleton, Node.bareNodes_mk, List.flatMap_nil, List.append_nil]
    rfl
  | keepOver => exact takenApart_keepOverContribution hp f source
  | rebuildAggregate =>
    cases hmatch : source.matchOver with
    | delegate reason =>
      rw [parts_of_delegate hmatch, contribution_of_delegate hmatch]
      exact takenApart_keepOverContribution hp f source
    | rebuild m =>
      rw [parts_of_rebuild hmatch, contribution_of_rebuild hmatch]
      cases hparts : m.parts? with
      | error part =>
        simp only [rebuildContribution, hparts]
        rfl
      | ok found =>
        obtain ⟨arguments, parameter⟩ := found
        exact takenApart_rebuildContribution hp f source hparts

end

/-! ### Findings -/

/-- A node of a source kind is only reported when it is a statement kept as text. -/
theorem relabelFindings_label {k : SourceKind} (hraw : k ≠ .rawStatement) (a : Attributes)
    (cs : List Node) : relabelFindings (Node.mk k.label a cs) = [] := by
  have hlabel : k.label ≠ SourceKind.rawStatement.label := fun h => hraw (SourceKind.label_injective h)
  rw [relabelFindings, Node.kind_mk, mapLabel?_label, if_neg hlabel]
  rfl

theorem relabelFindings_rawStatement (a : Attributes) (cs : List Node) :
    relabelFindings (Node.mk SourceKind.rawStatement.label a cs) =
      [Diagnostic.rawStatement SourceKind.rawStatement.label] := by
  rw [relabelFindings, Node.kind_mk, mapLabel?_label, if_pos rfl]
  rfl

end Rule
end DialectConversion
