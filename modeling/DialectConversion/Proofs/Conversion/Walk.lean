import DialectConversion.Proofs.Conversion.Dispatch

/-! The way of a conversion through a tree: the nodes in the order in which they are converted, each with
the number of nodes that are then being converted inside each other, itself included. What a conversion
copies and reports, and the error it ends in, is read off from this walk node by node. In particular a
conversion fails where its walk first meets a node that is too deep or that lacks a part. -/
namespace DialectConversion
set_option autoImplicit false

/-- From each node the nodes below it that are converted in its place, in order, or the part that it
lacks. -/
@[ext]
structure Route where
  parts : Node → Except String (List Node)
  mem_descendants : ∀ {n c : Node} {cs : List Node}, parts n = .ok cs → c ∈ cs → c ∈ n.descendants

namespace Route

/-- The nodes that follow a node. None follow one that lacks a part. -/
def next (r : Route) (n : Node) : List Node :=
  match r.parts n with
  | .ok cs => cs
  | .error _ => []

theorem height_lt_of_mem_next (r : Route) {n c : Node} (hc : c ∈ r.next n) : c.height < n.height := by
  unfold next at hc
  split at hc
  · rename_i hparts
    exact Node.height_lt_of_mem_descendants (r.mem_descendants hparts hc)
  · exact absurd hc List.not_mem_nil

/-- The walk that a route makes from a node met at the given depth. -/
def walk (r : Route) (n : Node) (depth : Nat) : List Visit :=
  ⟨n, depth⟩ :: (r.next n).attach.flatMap fun c => r.walk c.1 (depth + 1)
termination_by n.height
decreasing_by exact r.height_lt_of_mem_next c.2

theorem walk_eq (r : Route) (n : Node) (depth : Nat) :
    r.walk n depth = ⟨n, depth⟩ :: (r.next n).flatMap fun c => r.walk c (depth + 1) := by
  rw [walk]
  simp only [List.flatMap_subtype, List.unattach_attach]

theorem walk_sublist_preorder {r : Route}
    (hnext : ∀ n, ((r.next n).flatMap Node.preorder).Sublist n.descendants) (n : Node) (depth : Nat) :
    ((r.walk n depth).map Visit.node).Sublist n.preorder := by
  have hbelow : ∀ c ∈ r.next n, ((r.walk c (depth + 1)).map Visit.node).Sublist c.preorder :=
    fun c _ => walk_sublist_preorder hnext c (depth + 1)
  rw [walk_eq, Node.preorder_eq, List.map_cons, List.map_flatMap]
  exact ((List.Sublist.flatMap_right _ hbelow).trans (hnext n)).cons_cons n
termination_by n.height
decreasing_by exact r.height_lt_of_mem_next ‹_›

/-- What stops a conversion at a visit: the node is too deep, or else it lacks a part. -/
def fault? (r : Route) (maxDepth : Nat) (v : Visit) : Option ConversionError :=
  if maxDepth < v.depth then some (.depthLimitExceeded v.node.kind maxDepth)
  else match r.parts v.node with
    | .error part => some (.missingSubstructure v.node.kind part)
    | .ok _ => none

end Route

namespace Conversion

/-- The route on which every node is left to its rule. -/
def route (cv : Conversion) : Route where
  parts n := (cv.ruleFor n.kind).parts n
  mem_descendants := Rule.mem_descendants_of_mem_parts

/-- What a conversion contributes at a visit, by itself: the copy of the node and the findings on it. -/
def visited (cv : Conversion) (v : Visit) : Contribution :=
  match cv.route.fault? cv.config.maxDepth v with
  | some e => { error? := some e }
  | none =>
    { nodes := (cv.ruleFor v.node.kind).copies v.node
      findings := (cv.ruleFor v.node.kind).findings v.node }

theorem error?_visited (cv : Conversion) (v : Visit) :
    (cv.visited v).error? = cv.route.fault? cv.config.maxDepth v := by
  unfold visited
  cases cv.route.fault? cv.config.maxDepth v <;> rfl

/-- Taken apart, a conversion contributes what its visits contribute in order. -/
theorem takenApart_contribution_eq (cv : Conversion) {p : Node → Bool} (hp : Rule.DropsMade p)
    {levels depth : Nat} (h : depth + levels = cv.config.maxDepth + 1) (n : Node) :
    (cv.contribution levels n).takenApart p =
      Contribution.inOrder ((cv.route.walk n depth).map fun v => (cv.visited v).takenApart p) := by
  induction levels generalizing depth n with
  | zero =>
    have hdepth : cv.config.maxDepth < depth := by omega
    have hvisit : cv.visited ⟨n, depth⟩ =
        { error? := some (.depthLimitExceeded n.kind cv.config.maxDepth) } := by
      simp only [visited, Route.fault?, if_pos hdepth]
    rw [Route.walk_eq, List.map_cons, Contribution.inOrder_cons, hvisit,
      Contribution.andThen_of_error rfl]
    rfl
  | succ levels ih =>
    have hdepth : ¬ cv.config.maxDepth < depth := by omega
    have hbelow := ih (show depth + 1 + levels = cv.config.maxDepth + 1 by omega)
    rw [contribution_succ, Rule.takenApart_contribution hp, Route.walk_eq, List.map_cons,
      Contribution.inOrder_cons]
    cases hparts : (cv.ruleFor n.kind).parts n with
    | error part =>
      have hvisit : cv.visited ⟨n, depth⟩ =
          { error? := some (.missingSubstructure n.kind part) } := by
        simp only [visited, Route.fault?, if_neg hdepth, route, hparts]
      rw [hvisit, Contribution.andThen_of_error rfl]
      rfl
    | ok cs =>
      have hvisit : cv.visited ⟨n, depth⟩ =
          { nodes := (cv.ruleFor n.kind).copies n, findings := (cv.ruleFor n.kind).findings n } := by
        simp only [visited, Route.fault?, if_neg hdepth, route, hparts]
      have hnext : cv.route.next n = cs := by simp only [Route.next, route, hparts]
      simp only
      rw [hvisit, hnext, List.map_flatMap, Contribution.inOrder_flatMap,
        List.map_congr_left fun c _ => hbelow c]

theorem error?_contribution_eq (cv : Conversion) {levels depth : Nat}
    (h : depth + levels = cv.config.maxDepth + 1) (n : Node) :
    (cv.contribution levels n).error? =
      (cv.route.walk n depth).findSome? (cv.route.fault? cv.config.maxDepth) := by
  have hdrops : Rule.DropsMade fun _ => false := ⟨fun _ => rfl, fun _ => rfl⟩
  rw [← Contribution.error?_takenApart, takenApart_contribution_eq cv hdrops h, Contribution.error?_inOrder,
    List.findSome?_map]
  exact congrArg (List.findSome? · _) (funext (error?_visited cv))

theorem takenApart_contribution_of_success (cv : Conversion) {source : Node} {p : Node → Bool}
    (hp : Rule.DropsMade p) {levels depth : Nat} (h : depth + levels = cv.config.maxDepth + 1)
    (hsuccess : (cv.contribution levels source).error? = none) :
    (cv.contribution levels source).takenApart p =
      ⟨(cv.route.walk source depth).flatMap fun v => ((cv.ruleFor v.node.kind).copies v.node).filter p,
        (cv.route.walk source depth).flatMap fun v => (cv.ruleFor v.node.kind).findings v.node, none⟩ := by
  rw [error?_contribution_eq cv h] at hsuccess
  rw [takenApart_contribution_eq cv hp h]
  apply Contribution.inOrder_map_eq_flatMap
  intro v hv
  have hfault : cv.route.fault? cv.config.maxDepth v = none := List.findSome?_eq_none_iff.1 hsuccess v hv
  simp only [visited, hfault, Contribution.takenApart, Rule.bareNodes_copies]

/-- A conversion meets nodes in the order in which the tree is written, and none of them twice. -/
theorem walk_sublist_preorder (cv : Conversion) (source : Node) (depth : Nat) :
    ((cv.route.walk source depth).map Visit.node).Sublist source.preorder := by
  apply Route.walk_sublist_preorder
  intro n
  cases hparts : (cv.ruleFor n.kind).parts n with
  | error part =>
    have hnext : cv.route.next n = [] := by simp only [Route.next, route, hparts]
    rw [hnext]
    exact List.nil_sublist _
  | ok cs =>
    have hnext : cv.route.next n = cs := by simp only [Route.next, route, hparts]
    rw [hnext]
    exact Rule.parts_sublist hparts

end Conversion

/-! ## Under the standard converters -/

/-- The route of the standard converters. From an over-expression that is matched it leads to the list of
arguments and the first OVER parameter, from another one of the usual shape to the function and each
parameter, and from every other node to its children. -/
def Route.standard : Route where
  parts n :=
    if n.kind = SourceKind.overExpression.label then Rule.rebuildAggregate.parts n else .ok n.children
  mem_descendants {n c cs} h hc := by
    split at h
    · exact Rule.mem_descendants_of_mem_parts h hc
    · exact @Rule.mem_descendants_of_mem_parts .relabel n c cs h hc

namespace Conversion

theorem route_standard {config : Config}
    (h : config.enables Converter.aggregateOver.name = true) : (standard config).route = Route.standard := by
  apply Route.ext
  funext n
  show ((standard config).ruleFor n.kind).parts n =
    if n.kind = SourceKind.overExpression.label then Rule.rebuildAggregate.parts n else .ok n.children
  rw [ruleFor_standard, h]
  by_cases hk : n.kind = SourceKind.overExpression.label
  · rw [if_pos ⟨rfl, hk⟩, if_pos hk]
  · rw [if_neg fun hboth => hk hboth.2, if_neg hk]
    rfl

/-- A conversion with the standard converters fails when its walk, which begins at depth 1, comes to a
node that is too deep or that lacks a part, and then the first such node on the walk gives the error. -/
theorem convertDocument_error_eq_first_fault (maxDepth : Nat) (source : Node) :
    ∃ cv, ofConfig { maxDepth := maxDepth } = .ok cv ∧
      match cv.convertDocument source with
      | .error e => ∃ before v after, Route.standard.walk source 1 = before ++ v :: after ∧
          (∀ w ∈ before, Route.standard.fault? maxDepth w = none) ∧
          Route.standard.fault? maxDepth v = some e
      | .ok _ => ∀ v ∈ Route.standard.walk source 1, Route.standard.fault? maxDepth v = none := by
  refine ⟨standard { maxDepth := maxDepth }, ofConfig_eq _, ?_⟩
  have hwalk := error?_contribution_eq (standard { maxDepth := maxDepth })
    (Nat.add_comm 1 maxDepth) source
  rw [route_standard rfl, config_standard] at hwalk
  cases herror : ((standard { maxDepth := maxDepth }).contribution maxDepth source).error? with
  | some e =>
    rw [convertDocument_of_error herror]
    rw [herror] at hwalk
    obtain ⟨before, v, after, hsplit, hv, hbefore⟩ := List.findSome?_eq_some_iff.1 hwalk.symm
    exact ⟨before, v, after, hsplit, hbefore, hv⟩
  | none =>
    rw [convertDocument_of_success herror]
    rw [herror] at hwalk
    exact List.findSome?_eq_none_iff.1 hwalk.symm

end Conversion
end DialectConversion
