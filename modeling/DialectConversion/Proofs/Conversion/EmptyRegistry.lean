import DialectConversion.Proofs.Conversion.Relabelling
import DialectConversion.Proofs.Conversion.Walk

/-! Conversion with an empty registry. The walk is the whole tree in the order in which it is written, so
that the depth of a node is its level; the tree is relabelled, or the first node below the limit is
refused. -/
namespace DialectConversion
set_option autoImplicit false

namespace Node

/-- The finding on a node that is relabelled, if there is one: it is a statement kept as text, or its kind
is outside the source vocabulary. -/
def finding? (n : Node) : Option Diagnostic :=
  if n.kind = "raw-statement" then
    some
      { severity := .info
        code := "RAW_STATEMENT"
        message := "statement copied as text without conversion"
        nodeKind? := some "raw-statement" }
  else if mapLabel? n.kind = none then
    some
      { severity := .warning
        code := "UNMAPPED_NODE_KIND"
        message := "no target equivalent for '" ++ n.kind ++ "' nodes"
        nodeKind? := some n.kind }
  else none

theorem relabelFindings_eq_toList (n : Node) : Rule.relabelFindings n = n.finding?.toList := by
  by_cases hraw : n.kind = SourceKind.rawStatement.label
  · have hfinding : n.finding? = some (Diagnostic.rawStatement SourceKind.rawStatement.label) := if_pos hraw
    rw [hfinding, Rule.relabelFindings, if_pos hraw, hraw, mapLabel?_label]
    rfl
  · have hfinding : n.finding? = if mapLabel? n.kind = none then some (Diagnostic.unmapped n.kind) else none :=
      if_neg hraw
    rw [hfinding, Rule.relabelFindings, if_neg hraw, List.append_nil]
    cases mapLabel? n.kind <;> rfl

theorem relabelFindings_eq_filterMap_preorder (n : Node) :
    n.relabelFindings = n.preorder.filterMap finding? := by
  rw [List.filterMap_eq_flatMap_toList, ← funext relabelFindings_eq_toList]
  induction n with
  | node k a cs ih =>
    rw [relabelFindings_mk, preorder_eq, List.flatMap_cons, descendants, List.flatMap_assoc, children_mk]
    exact congrArg (Rule.relabelFindings (mk k a cs) ++ ·) (List.flatMap_congr ih)

end Node

theorem Route.walk_eq_visitsFrom {r : Route} (h : ∀ n, r.parts n = .ok n.children) (n : Node)
    (depth : Nat) : r.walk n depth = n.visitsFrom depth := by
  induction n generalizing depth with
  | node k a cs ih =>
    have hnext : r.next (Node.mk k a cs) = cs := by
      simp only [Route.next, h, Node.children_mk]
    rw [Route.walk_eq, hnext, Node.visitsFrom_eq, Node.children_mk]
    exact congrArg (⟨Node.mk k a cs, depth⟩ :: ·) (List.flatMap_congr fun c hc => ih c hc (depth + 1))

/-! ## The first node that is too deep -/

theorem find?_flatMap_congr {α β : Type} {f : α → List β} {p q : β → Bool} {xs : List α}
    (h : ∀ x ∈ xs, (f x).find? p = (f x).find? q) : (xs.flatMap f).find? p = (xs.flatMap f).find? q := by
  induction xs with
  | nil => rfl
  | cons x xs ih =>
    rw [List.forall_mem_cons] at h
    rw [List.flatMap_cons, List.find?_append, List.find?_append, h.1, ih h.2]

/-- Levels grow by one on the way down, so the first node below a limit is on the next level. -/
theorem Node.find?_visitsFrom {limit depth : Nat} (h : depth ≤ limit + 1) (n : Node) :
    (n.visitsFrom depth).find? (fun v => limit < v.depth) =
      (n.visitsFrom depth).find? fun v => v.depth = limit + 1 := by
  induction n generalizing depth with
  | node k a cs ih =>
    rw [visitsFrom_eq, List.find?_cons, List.find?_cons]
    by_cases hdepth : depth = limit + 1
    · subst hdepth
      simp
    · have hbelow := find?_flatMap_congr fun c (hc : c ∈ cs) => ih c hc (show depth + 1 ≤ limit + 1 by omega)
      have hle : ¬ limit < depth := by omega
      simpa only [hdepth, hle, decide_false, children_mk] using hbelow

namespace Conversion

variable {config : Config}

theorem error?_contribution_empty (source : Node) :
    ((⟨{}, config⟩ : Conversion).contribution config.maxDepth source).error? =
      ((source.visitsFrom 1).find? fun v => v.depth = config.maxDepth + 1).map
        fun v => .depthLimitExceeded v.node.kind config.maxDepth := by
  have hfault : (⟨{}, config⟩ : Conversion).route.fault? config.maxDepth =
      Option.map (fun v => .depthLimitExceeded v.node.kind config.maxDepth) ∘
        Option.guard fun v => config.maxDepth < v.depth := by
    funext v
    by_cases hv : config.maxDepth < v.depth
    · simp [Route.fault?, Option.guard, hv]
    · simp [Route.fault?, Option.guard, hv, route, ruleFor_empty, Rule.parts]
  rw [error?_contribution_eq _ (Nat.add_comm 1 config.maxDepth), hfault,
    Route.walk_eq_visitsFrom (fun _ => rfl), ← List.map_findSome?, ← List.find?_eq_findSome?_guard,
    Node.find?_visitsFrom (Nat.le_add_left 1 _)]

/-- With an empty registry a tree is converted when it is no higher than the limit. Then it is relabelled
under a document node, node by node, with the findings on each of its nodes in the order in which it is
written. Otherwise the first node in this order that is one level below the limit is refused. -/
theorem convertDocument_empty (config : Config) (source : Node) :
    match (⟨{}, config⟩ : Conversion).convertDocument source with
    | .ok doc => source.height ≤ config.maxDepth ∧
        doc.root = Node.branch "document" [source.relabelled] ∧
        doc.diagnostics = source.preorder.filterMap Node.finding?
    | .error e => config.maxDepth < source.height ∧
        ∃ v, ((source.visitsFrom 1).find? fun v => v.depth = config.maxDepth + 1) = some v ∧
          e = .depthLimitExceeded v.node.kind config.maxDepth := by
  cases herror : ((⟨{}, config⟩ : Conversion).contribution config.maxDepth source).error? with
  | none =>
    have hheight := height_le_of_contribution (ruleFor_empty config) herror
    rw [convertDocument_of_height_le (ruleFor_empty config) hheight]
    exact ⟨hheight, rfl, source.relabelFindings_eq_filterMap_preorder⟩
  | some e =>
    rw [convertDocument_of_error herror]
    refine ⟨Nat.lt_of_not_le fun hheight => ?_, ?_⟩
    · rw [contribution_of_height_le (ruleFor_empty config) hheight] at herror
      exact absurd herror nofun
    · rw [error?_contribution_empty] at herror
      obtain ⟨v, hv, he⟩ := Option.map_eq_some_iff.1 herror
      exact ⟨v, hv, he.symm⟩

end Conversion
end DialectConversion
