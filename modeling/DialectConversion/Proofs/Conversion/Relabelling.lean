import DialectConversion.Proofs.Conversion.Dispatch
import DialectConversion.Proofs.Tree.Shape

/-! What a conversion makes of a tree when no kind has a rule of its own: the same tree with every
label mapped, and findings in the order in which the tree is written. It succeeds when the tree is
no higher than the limit, and only then. -/
namespace DialectConversion
set_option autoImplicit false
open Sql

namespace Node

mutual
/-- The tree with every label replaced by its counterpart, and unknown labels kept. -/
def relabelled : Node → Node
  | mk k a cs => mk ((mapLabel? k).getD k) a (relabelledEach cs)

def relabelledEach : List Node → List Node
  | [] => []
  | c :: rest => relabelled c :: relabelledEach rest
end

theorem relabelledEach_eq_map (cs : List Node) : relabelledEach cs = cs.map relabelled := by
  induction cs with
  | nil => rfl
  | cons c rest ih => rw [relabelledEach, ih, List.map_cons]

@[simp] theorem relabelled_mk (k : String) (a : Attributes) (cs : List Node) :
    (mk k a cs).relabelled = mk ((mapLabel? k).getD k) a (cs.map relabelled) := by
  rw [relabelled, relabelledEach_eq_map]

theorem relabelled_mk_label (k : SourceKind) (a : Attributes) (cs : List Node) :
    (mk k.label a cs).relabelled = mk k.target.label a (cs.map relabelled) := by
  rw [relabelled_mk, mapLabel?_label, Option.getD_some]

mutual
/-- The findings on a tree that is relabelled, those on a node before those below it. -/
def relabelFindings : Node → List Diagnostic
  | mk k a cs => Rule.relabelFindings (mk k a cs) ++ relabelFindingsEach cs

def relabelFindingsEach : List Node → List Diagnostic
  | [] => []
  | c :: rest => relabelFindings c ++ relabelFindingsEach rest
end

theorem relabelFindingsEach_eq_flatMap (cs : List Node) :
    relabelFindingsEach cs = cs.flatMap relabelFindings := by
  induction cs with
  | nil => rfl
  | cons c rest ih => rw [relabelFindingsEach, ih, List.flatMap_cons]

theorem relabelFindings_mk (k : String) (a : Attributes) (cs : List Node) :
    (mk k a cs).relabelFindings = Rule.relabelFindings (mk k a cs) ++ cs.flatMap relabelFindings := by
  rw [relabelFindings, relabelFindingsEach_eq_flatMap]

theorem relabelFindings_mk_label {k : SourceKind} (hraw : k ≠ .rawStatement) (a : Attributes)
    (cs : List Node) : (mk k.label a cs).relabelFindings = cs.flatMap relabelFindings := by
  rw [relabelFindings_mk, Rule.relabelFindings_label hraw, List.nil_append]

end Node

theorem Rule.relabelContribution_eq_relabelled {f : Node → Contribution} {n : Node}
    (hf : ∀ c ∈ n.children, f c = ⟨[c.relabelled], c.relabelFindings, none⟩) :
    relabelContribution f n = ⟨[n.relabelled], n.relabelFindings, none⟩ := by
  obtain ⟨k, a, cs⟩ := n
  have hbelow := Contribution.inOrder_map_of_success hf
  unfold relabelContribution
  rw [hbelow, Node.relabelFindings_mk, Node.relabelled_mk]
  rfl

/-! ## Lowered calls -/

section
variable (name : List Ident) (arguments : List Node) (window : Node)

theorem relabelFindings_callNode :
    (callNode name arguments).relabelFindings =
      (SourceKind.expressionList.branchNode arguments).relabelFindings := by
  have hname : (name.map Ident.node).flatMap Node.relabelFindings = [] := by
    refine List.flatMap_eq_nil_iff.2 (List.forall_mem_map.2 fun i _ => ?_)
    rw [i.node_eq, Node.relabelFindings_mk_label (by decide), List.flatMap_nil]
  rw [callNode, SourceKind.branchNode, Node.branch, Node.relabelFindings_mk_label (by decide),
    List.flatMap_append, hname, List.nil_append, List.flatMap_singleton, SourceKind.branchNode,
    Node.branch, Node.relabelFindings_mk_label (by decide), List.flatMap_singleton]

theorem relabelFindings_overNode :
    (overNode name arguments window).relabelFindings =
      (callNode name arguments).relabelFindings ++ window.relabelFindings := by
  rw [overNode, SourceKind.branchNode, Node.branch, Node.relabelFindings_mk_label (by decide),
    List.flatMap_cons, List.flatMap_singleton, SourceKind.branchNode, Node.branch,
    Node.relabelFindings_mk_label (by decide), List.flatMap_singleton]

end

namespace Conversion

variable {cv : Conversion}

theorem contribution_of_height_le (hcv : ∀ kind, cv.ruleFor kind = .relabel) {levels : Nat} {n : Node}
    (hn : n.height ≤ levels) :
    cv.contribution levels n = ⟨[n.relabelled], n.relabelFindings, none⟩ := by
  induction n generalizing levels with
  | node k a cs ih =>
    cases levels with
    | zero => exact absurd hn (Nat.not_le.2 (Node.height_pos _))
    | succ levels =>
      rw [Node.height_mk_le_succ_iff] at hn
      rw [contribution_succ, hcv]
      exact Rule.relabelContribution_eq_relabelled fun c hc => ih c hc (hn c hc)

theorem height_le_of_contribution (hcv : ∀ kind, cv.ruleFor kind = .relabel) {levels : Nat} {n : Node}
    (h : (cv.contribution levels n).error? = none) : n.height ≤ levels := by
  induction n generalizing levels with
  | node k a cs ih =>
    cases levels with
    | zero =>
      rw [contribution_zero] at h
      exact absurd h (Option.some_ne_none _)
    | succ levels =>
      rw [contribution_relabel (hcv _), Node.children_mk] at h
      have hbelow := (Contribution.inOrder_error?_eq_none_iff _).1 h
      rw [List.forall_mem_map] at hbelow
      exact (Node.height_mk_le_succ_iff k a cs levels).2 fun c hc => ih c hc (hbelow c hc)

/-- Without rules of its own a conversion relabels whatever it does not refuse. -/
theorem convertDocument_relabels (hcv : ∀ kind, cv.ruleFor kind = .relabel) {n : Node}
    {doc : ConvertedDocument} (h : cv.convertDocument n = .ok doc) :
    n.height ≤ cv.config.maxDepth ∧
      doc = ⟨Node.branch TargetKind.document.label [n.relabelled], n.relabelFindings⟩ := by
  rw [convertDocument_eq] at h
  cases he : (cv.contribution cv.config.maxDepth n).error? with
  | some e => simp only [he, reduceCtorEq] at h
  | none =>
    have hn := height_le_of_contribution hcv he
    rw [contribution_of_height_le hcv hn] at h
    exact ⟨hn, (Except.ok.inj h).symm⟩

theorem convertDocument_of_height_le (hcv : ∀ kind, cv.ruleFor kind = .relabel) {n : Node}
    (hn : n.height ≤ cv.config.maxDepth) :
    cv.convertDocument n =
      .ok ⟨Node.branch TargetKind.document.label [n.relabelled], n.relabelFindings⟩ := by
  have h := contribution_of_height_le hcv hn
  rw [convertDocument_of_success (by rw [h]), h]

end Conversion
end DialectConversion
