import DialectConversion.Proofs.Tree.Preorder
import Mathlib.Data.List.Infix

/-! Searches by position. A way down a tree names the child to take at each node that it passes, so it also
tells apart nodes that look the same. What a search finds lies at the end of the first way that leads to a
node of the kind: other such ways go on below what is found, or take a later child where they part. -/
namespace DialectConversion.Node
set_option autoImplicit false

/-! ## Ways down a tree -/

/-- The node at the end of a way down, which names children by their positions. -/
def nodeAt? : Node → List Nat → Option Node
  | n, [] => some n
  | n, i :: way => n.children[i]?.bind fun c => nodeAt? c way

/-- The first way ends at or before the end of the second in the order in which a tree is written: the second
one goes on from where the first one ends, or takes a later child where they part. -/
def NoLater (way other : List Nat) : Prop :=
  way <+: other ∨ ∃ shared i j, i < j ∧ shared ++ [i] <+: way ∧ shared ++ [j] <+: other

theorem NoLater.nil (other : List Nat) : NoLater [] other := .inl List.nil_prefix

theorem NoLater.of_lt {i j : Nat} (h : i < j) (way other : List Nat) : NoLater (i :: way) (j :: other) :=
  .inr ⟨[], i, j, h, List.prefix_append [i] way, List.prefix_append [j] other⟩

theorem NoLater.cons {way other : List Nat} (h : NoLater way other) (i : Nat) :
    NoLater (i :: way) (i :: other) := by
  rcases h with hprefix | ⟨shared, first, second, hlt, hway, hother⟩
  · exact .inl ((List.prefix_cons_inj i).2 hprefix)
  · exact .inr ⟨i :: shared, first, second, hlt, (List.prefix_cons_inj i).2 hway,
      (List.prefix_cons_inj i).2 hother⟩

theorem nodeAt?_cons_eq_some {n found : Node} {i : Nat} {way : List Nat} :
    n.nodeAt? (i :: way) = some found ↔ ∃ c, n.children[i]? = some c ∧ c.nodeAt? way = some found := by
  rw [nodeAt?, Option.bind_eq_some_iff]

theorem mem_preorder_of_nodeAt? {n found : Node} {way : List Nat} (h : n.nodeAt? way = some found) :
    found ∈ n.preorder := by
  induction way generalizing n with
  | nil =>
    rw [← Option.some.inj h]
    exact n.mem_preorder_self
  | cons i way ih =>
    obtain ⟨c, hc, hbelow⟩ := nodeAt?_cons_eq_some.1 h
    have hchild : c ∈ n.descendants := mem_descendants_of_mem_children (List.mem_of_getElem? hc)
    exact preorder_subset_of_mem_descendants hchild (ih hbelow)

/-! ## Where a search ends -/

theorem findDescendant?_eq_some_iff {n found : Node} {kind : String} :
    n.findDescendant? kind = some found ↔ ∃ earlier c later, n.children = earlier ++ c :: later ∧
      (∀ e ∈ earlier, ∀ d ∈ e.preorder, d.kind ≠ kind) ∧
      c.preorder.find? (fun d => d.kind = kind) = some found := by
  rw [findDescendant?_eq_find?, descendants, List.find?_flatMap, List.findSome?_eq_some_iff]
  constructor
  · rintro ⟨earlier, c, later, hchildren, hfound, hnone⟩
    refine ⟨earlier, c, later, hchildren, fun e he d hd hkind => ?_, hfound⟩
    exact List.find?_eq_none.1 (hnone e he) d hd (decide_eq_true hkind)
  · rintro ⟨earlier, c, later, hchildren, hnone, hfound⟩
    refine ⟨earlier, c, later, hchildren, hfound, fun e he => ?_⟩
    exact List.find?_eq_none.2 fun d hd hkind => hnone e he d hd (of_decide_eq_true hkind)

/-- The way leads to the node, and no way to a node of the kind comes before it. -/
structure IsFirstWay (n : Node) (kind : String) (way : List Nat) (found : Node) : Prop where
  reaches : n.nodeAt? way = some found
  first : ∀ other d, n.nodeAt? other = some d → d.kind = kind → NoLater way other

/-- The first way below a node starts with the first child whose tree has a node of the kind. -/
theorem IsFirstWay.below {n c found : Node} {kind : String} {way : List Nat} {earlier later : List Node}
    (hchildren : n.children = earlier ++ c :: later)
    (hearlier : ∀ e ∈ earlier, ∀ d ∈ e.preorder, d.kind ≠ kind) (h : c.IsFirstWay kind way found) :
    n.nodeAt? (earlier.length :: way) = some found ∧
      ∀ j other d, n.nodeAt? (j :: other) = some d → d.kind = kind →
        NoLater (earlier.length :: way) (j :: other) := by
  have hc : n.children[earlier.length]? = some c := by
    rw [hchildren, List.getElem?_append_right (Nat.le_refl _), Nat.sub_self, List.getElem?_cons_zero]
  refine ⟨nodeAt?_cons_eq_some.2 ⟨c, hc, h.reaches⟩, fun j other d hd hkind => ?_⟩
  obtain ⟨child, hchild, hbelow⟩ := nodeAt?_cons_eq_some.1 hd
  rcases Nat.lt_trichotomy j earlier.length with hlt | rfl | hgt
  · rw [hchildren, List.getElem?_append_left hlt] at hchild
    exact absurd hkind (hearlier child (List.mem_of_getElem? hchild) d (mem_preorder_of_nodeAt? hbelow))
  · obtain rfl := Option.some.inj (hc.symm.trans hchild)
    exact (h.first other d hbelow hkind).cons earlier.length
  · exact .of_lt hgt way other

/-- In a tree with its root, the first node of a kind lies at the end of the first way to such a node. -/
theorem exists_isFirstWay {n found : Node} {kind : String}
    (h : n.preorder.find? (fun d => d.kind = kind) = some found) : ∃ way, n.IsFirstWay kind way found := by
  induction n generalizing found with
  | node k a cs ih =>
    rw [preorder_eq, List.find?_cons] at h
    split at h
    · exact ⟨[], h, fun other _ _ _ => .nil other⟩
    · rename_i hroot
      rw [← findDescendant?_eq_find?] at h
      obtain ⟨earlier, c, later, hchildren, hearlier, hfound⟩ := findDescendant?_eq_some_iff.1 h
      obtain ⟨way, hway⟩ := ih c (by rw [← children_mk k a cs, hchildren]; simp) hfound
      obtain ⟨hreaches, hfirst⟩ := hway.below hchildren hearlier
      refine ⟨earlier.length :: way, hreaches, fun other d hd hkind => ?_⟩
      cases other with
      | nil =>
        rw [← Option.some.inj hd] at hkind
        exact absurd (decide_eq_true hkind) (by rw [hroot]; exact Bool.false_ne_true)
      | cons j other => exact hfirst j other d hd hkind

/-- A search below a node finds the first node of the kind in the order in which the tree is written, the node
itself left out, and fails only where there is none. By position: every other node of the kind lies inside
the one that is found, or down a later child where the ways to the two part. -/
theorem findDescendant?_first (n : Node) (kind : String) :
    (∀ found, n.findDescendant? kind = some found ↔ ∃ before after,
      n.descendants = before ++ found :: after ∧ found.kind = kind ∧ ∀ d ∈ before, d.kind ≠ kind) ∧
    (n.findDescendant? kind = none ↔ ∀ d ∈ n.descendants, d.kind ≠ kind) ∧
    (∀ found, n.findDescendant? kind = some found → ∃ way, way ≠ [] ∧ n.nodeAt? way = some found ∧
      ∀ other d, other ≠ [] → n.nodeAt? other = some d → d.kind = kind → NoLater way other) := by
  refine ⟨fun found => ?_, ?_, fun found h => ?_⟩
  · rw [findDescendant?_eq_find?, List.find?_eq_some_iff_append]
    simp only [decide_eq_true_eq, Bool.not_eq_true', decide_eq_false_iff_not]
    constructor
    · rintro ⟨hkind, before, after, hsplit, hbefore⟩
      exact ⟨before, after, hsplit, hkind, hbefore⟩
    · rintro ⟨before, after, hsplit, hkind, hbefore⟩
      exact ⟨hkind, before, after, hsplit, hbefore⟩
  · rw [findDescendant?_eq_find?, List.find?_eq_none]
    simp only [decide_eq_true_eq]
  · obtain ⟨earlier, c, later, hchildren, hearlier, hfound⟩ := findDescendant?_eq_some_iff.1 h
    obtain ⟨way, hway⟩ := exists_isFirstWay hfound
    obtain ⟨hreaches, hfirst⟩ := hway.below hchildren hearlier
    refine ⟨earlier.length :: way, List.cons_ne_nil _ _, hreaches, fun other d hother hd hkind => ?_⟩
    cases other with
    | nil => exact absurd rfl hother
    | cons j other => exact hfirst j other d hd hkind

/-- What is nested in an earlier child comes before a shallower node in a later one. -/
example :
    let nested := branch "target" [leaf "target"]
    (branch "root" [branch "other" [nested], leaf "target"]).findDescendant? "target" = some nested := by decide

end DialectConversion.Node
