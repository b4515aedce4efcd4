import DialectConversion.Proofs.Tree.Shape
import Mathlib.Data.List.Basic
import Mathlib.Data.List.Flatten

/-! The nodes of a tree in the order in which it is written, a node before what is below it and all
below a child before the next child, each with its level. Searches stay among these nodes. -/
namespace DialectConversion
set_option autoImplicit false

/-- A node met on the way through a tree, and how deep it is met. -/
structure Visit where
  node : Node
  depth : Nat

namespace Node

mutual
/-- The nodes of a tree in the order in which it is written, with their levels; the first argument is
the level of the tree itself. -/
def visitsFrom (depth : Nat) : Node → List Visit
  | mk k a cs => ⟨mk k a cs, depth⟩ :: visitsFromEach (depth + 1) cs

def visitsFromEach (depth : Nat) : List Node → List Visit
  | [] => []
  | c :: rest => visitsFrom depth c ++ visitsFromEach depth rest
end

theorem visitsFromEach_eq_flatMap (depth : Nat) (cs : List Node) :
    visitsFromEach depth cs = cs.flatMap (visitsFrom depth) := by
  induction cs with
  | nil => rfl
  | cons c rest ih => rw [visitsFromEach, ih, List.flatMap_cons]

theorem visitsFrom_eq (depth : Nat) (n : Node) :
    n.visitsFrom depth = ⟨n, depth⟩ :: n.children.flatMap (visitsFrom (depth + 1)) := by
  cases n with
  | mk k a cs => rw [visitsFrom, visitsFromEach_eq_flatMap, children_mk]

mutual
/-- The nodes of a tree in the order in which it is written. -/
def preorder : Node → List Node
  | mk k a cs => mk k a cs :: preorderEach cs

def preorderEach : List Node → List Node
  | [] => []
  | c :: rest => preorder c ++ preorderEach rest
end

theorem preorderEach_eq_flatMap (cs : List Node) : preorderEach cs = cs.flatMap preorder := by
  induction cs with
  | nil => rfl
  | cons c rest ih => rw [preorderEach, ih, List.flatMap_cons]

/-- The nodes below a node, itself left out. -/
def descendants (n : Node) : List Node := n.children.flatMap preorder

theorem preorder_eq (n : Node) : n.preorder = n :: n.descendants := by
  cases n with
  | mk k a cs => rw [preorder, preorderEach_eq_flatMap, descendants, children_mk]

theorem map_node_visitsFrom (n : Node) (depth : Nat) : (n.visitsFrom depth).map Visit.node = n.preorder := by
  induction n generalizing depth with
  | node k a cs ih =>
    rw [visitsFrom_eq, preorder_eq, List.map_cons, List.map_flatMap, children_mk, descendants, children_mk]
    exact congrArg (mk k a cs :: ·) (List.flatMap_congr fun c hc => ih c hc (depth + 1))

/-! ## Below a node -/

theorem mem_preorder_self (n : Node) : n ∈ n.preorder := by
  rw [preorder_eq]
  exact List.mem_cons_self

theorem descendants_sublist_preorder (n : Node) : n.descendants.Sublist n.preorder := by
  rw [preorder_eq]
  exact List.sublist_cons_self n _

theorem preorder_sublist_of_mem {c : Node} {cs : List Node} (hc : c ∈ cs) :
    c.preorder.Sublist (cs.flatMap preorder) := by
  have h := (List.singleton_sublist.2 hc).flatMap preorder
  rwa [List.flatMap_singleton] at h

theorem mem_descendants_of_mem_children {n c : Node} (hc : c ∈ n.children) : c ∈ n.descendants :=
  (preorder_sublist_of_mem hc).subset c.mem_preorder_self

theorem preorder_sublist_of_mem_descendants {n c : Node} (hc : c ∈ n.descendants) :
    c.preorder.Sublist n.descendants := by
  induction n with
  | node k a cs ih =>
    obtain ⟨child, hchild, hmem⟩ := List.mem_flatMap.1 hc
    have hbelow : child.preorder.Sublist (mk k a cs).descendants := preorder_sublist_of_mem hchild
    rw [preorder_eq, List.mem_cons] at hmem
    rcases hmem with rfl | hmem
    · exact hbelow
    · exact ((ih child hchild hmem).trans child.descendants_sublist_preorder).trans hbelow

theorem preorder_subset_of_mem_descendants {n c : Node} (hc : c ∈ n.descendants) :
    c.preorder ⊆ n.preorder :=
  ((preorder_sublist_of_mem_descendants hc).trans n.descendants_sublist_preorder).subset

theorem height_lt_of_mem_descendants {n c : Node} (hc : c ∈ n.descendants) : c.height < n.height := by
  induction n with
  | node k a cs ih =>
    obtain ⟨child, hchild, hmem⟩ := List.mem_flatMap.1 hc
    have hlt := height_lt_of_mem hchild
    rw [preorder_eq, List.mem_cons] at hmem
    rcases hmem with rfl | hmem
    · exact hlt
    · exact Nat.lt_trans (ih child hchild hmem) hlt

/-! ## Bare nodes -/

/-- The nodes of a tree that a test keeps, each without its children, in the order in which the tree is
written. -/
def bareNodes (p : Node → Bool) (n : Node) : List Node :=
  (n.preorder.map fun m => mk m.kind m.attributes []).filter p

theorem bareNodes_mk (p : Node → Bool) (k : String) (a : Attributes) (cs : List Node) :
    (mk k a cs).bareNodes p = [mk k a []].filter p ++ cs.flatMap (bareNodes p) := by
  have hbelow : ((mk k a cs).descendants.map fun m => mk m.kind m.attributes []).filter p =
      cs.flatMap (bareNodes p) := by
    rw [descendants, List.map_flatMap, List.filter_flatMap]
    rfl
  rw [bareNodes, preorder_eq, List.map_cons, ← List.singleton_append, List.filter_append, hbelow]
  rfl

theorem bareNodes_of_childless {p : Node → Bool} {n : Node} (hchildren : n.children = [])
    (hp : p n = false) : n.bareNodes p = [] := by
  obtain ⟨k, a, cs⟩ := n
  obtain rfl : cs = [] := hchildren
  rw [bareNodes_mk, List.flatMap_nil, List.append_nil]
  simp [hp]

/-! ## Search -/

mutual
/-- A search finds the first node of the kind below the node it starts from, in the order in which the tree
is written. -/
theorem findDescendant?_eq_find? (kind : String) :
    ∀ n : Node, n.findDescendant? kind = n.descendants.find? fun d => d.kind = kind
  | mk k a cs => by
    rw [findDescendant?, descendants, children_mk]
    exact findAmong?_eq_find? kind cs

theorem findAmong?_eq_find? (kind : String) :
    ∀ cs : List Node, findAmong? kind cs = (cs.flatMap preorder).find? fun d => d.kind = kind
  | [] => rfl
  | c :: rest => by
    have hbelow := findDescendant?_eq_find? kind c
    have hrest := findAmong?_eq_find? kind rest
    rw [findAmong?, hbelow, hrest, List.flatMap_cons, List.find?_append, preorder_eq, List.find?_cons]
    by_cases hkind : c.kind = kind
    · rw [if_pos hkind, decide_eq_true hkind]
      rfl
    · rw [if_neg hkind, decide_eq_false hkind]
      cases c.descendants.find? fun d => d.kind = kind <;> rfl
end

theorem mem_descendants_of_findDescendant? {kind : String} {found : Node} (n : Node)
    (h : n.findDescendant? kind = some found) : found ∈ n.descendants := by
  rw [findDescendant?_eq_find?] at h
  exact List.mem_of_find?_eq_some h

end Node
end DialectConversion
