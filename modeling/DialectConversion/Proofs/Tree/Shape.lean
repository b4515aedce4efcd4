import DialectConversion.Tree.Node

/-! Induction on trees, their height, and searches below a node. -/
namespace DialectConversion.Node
set_option autoImplicit false

/-- What holds of a node whenever it holds of its children holds of every node. -/
@[elab_as_elim, induction_eliminator]
theorem induct {motive : Node → Prop}
    (node : ∀ k a cs, (∀ c ∈ cs, motive c) → motive (mk k a cs)) (n : Node) : motive n := by
  refine @Node.rec motive (fun cs => ∀ c ∈ cs, motive c) node ?_ ?_ n
  · exact fun c hc => absurd hc List.not_mem_nil
  · intro c rest hc hrest
    exact List.forall_mem_cons.2 ⟨hc, hrest⟩

/-! ## Height -/

mutual
/-- The number of nodes on a longest way down from a node, itself included. -/
def height : Node → Nat
  | mk _ _ cs => heightEach cs + 1

/-- The greatest height among the given nodes. -/
def heightEach : List Node → Nat
  | [] => 0
  | c :: rest => max c.height (heightEach rest)
end

theorem heightEach_le_iff (cs : List Node) (m : Nat) :
    heightEach cs ≤ m ↔ ∀ c ∈ cs, c.height ≤ m := by
  induction cs with
  | nil => simp [heightEach]
  | cons c rest ih => rw [heightEach, Nat.max_le, ih, List.forall_mem_cons]

theorem height_mk_le_succ_iff (k : String) (a : Attributes) (cs : List Node) (m : Nat) :
    (mk k a cs).height ≤ m + 1 ↔ ∀ c ∈ cs, c.height ≤ m := by
  rw [height, Nat.add_le_add_iff_right, heightEach_le_iff]

theorem height_pos (n : Node) : 0 < n.height := by
  cases n with
  | mk k a cs => exact Nat.succ_pos _

theorem height_lt_of_mem {n c : Node} (hc : c ∈ n.children) : c.height < n.height := by
  cases n with
  | mk k a cs =>
    have h := (height_mk_le_succ_iff k a cs (heightEach cs)).1 (Nat.le_refl _) c hc
    rw [height]
    omega

/-! ## Search -/

/-- A search skips nodes of another kind that have no children. -/
theorem findAmong?_append_of_leaves {kind : String} {cs rest : List Node}
    (h : ∀ c ∈ cs, c.kind ≠ kind ∧ c.children = []) :
    findAmong? kind (cs ++ rest) = findAmong? kind rest := by
  induction cs with
  | nil => rfl
  | cons c cs ih =>
    rw [List.forall_mem_cons] at h
    obtain ⟨⟨hkind, hchildren⟩, hcs⟩ := h
    have hbelow : findDescendant? kind c = none := by
      cases c with
      | mk k a below =>
        rw [children_mk] at hchildren
        rw [hchildren]
        rfl
    rw [List.cons_append, findAmong?, if_neg hkind, hbelow]
    exact ih hcs

end DialectConversion.Node
