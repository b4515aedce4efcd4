import DialectConversion.Proofs.Text.Joined
import DialectConversion.Proofs.Tree.Preorder

/-! Outlines read back. An outline is a list of lines, one for each node in the order in which the tree is
written; a line of plain words shows the level of its node, its kind and its attributes; and nodes in that
order with their levels leave no choice of the tree. -/
namespace DialectConversion
set_option autoImplicit false
open Text (trailed trailed_append append_inj_of_not_mem append_cons_inj_of_not_mem replicate_append_inj
  head?_toList_trailed mem_toList_trailed map_eq_of_trailed_eq_of_not_mem)

/-! ## The lines of an outline -/

/-- The line that an outline has for a node met on the way through a tree. -/
def Visit.line (v : Visit) : String := String.ofList (List.replicate (2 * v.depth) ' ') ++ v.node.outlineLine

namespace Node

/-- An attribute as an outline line shows it. -/
def outlineWord (entry : String × String) : String := entry.1 ++ "=" ++ entry.2

theorem outlineAttributes_eq (entries : List (String × String)) :
    outlineAttributes entries = trailed " " (entries.map outlineWord) := by
  induction entries with
  | nil => rfl
  | cons entry rest ih =>
    obtain ⟨name, value⟩ := entry
    rw [outlineAttributes, ih, List.map_cons, trailed, outlineWord]
    simp only [String.append_assoc]

theorem outlineBelow_eq {level : Nat} {cs : List Node}
    (h : ∀ c ∈ cs, outlineBreak level ++ outlineAt level c = trailed "\n" ((c.visitsFrom level).map Visit.line)) :
    outlineBelow level cs = trailed "\n" ((cs.flatMap (visitsFrom level)).map Visit.line) := by
  induction cs with
  | nil => rfl
  | cons c rest ih =>
    rw [List.forall_mem_cons] at h
    rw [outlineBelow, h.1, ih h.2, List.flatMap_cons, List.map_append, trailed_append]

theorem outlineBreak_append_outlineAt (n : Node) (level : Nat) :
    outlineBreak level ++ outlineAt level n = trailed "\n" ((n.visitsFrom level).map Visit.line) := by
  induction n generalizing level with
  | node k a cs ih =>
    rw [outlineAt, outlineBelow_eq fun c hc => ih c hc (level + 1), visitsFrom_eq, List.map_cons, trailed,
      outlineBreak, Visit.line, children_mk]
    simp only [String.append_assoc]

theorem break_append_outline (n : Node) : "\n" ++ n.outline = trailed "\n" ((n.visitsFrom 0).map Visit.line) := by
  have hbreak : outlineBreak 0 = "\n" := String.append_empty
  rw [← outlineBreak_append_outlineAt, hbreak, outline]

/-! ## Plain lines -/

/-- The kind, the names and the values of a node do not run into each other on an outline line. -/
structure HasPlainLine (n : Node) : Prop where
  kind_ne : n.kind ≠ ""
  kind_plain : ∀ c ∈ n.kind.toList, c ≠ ' ' ∧ c ≠ '\n'
  names_plain : ∀ e ∈ n.attributes.entries, ∀ c ∈ e.1.toList, c ≠ ' ' ∧ c ≠ '\n' ∧ c ≠ '='
  values_plain : ∀ e ∈ n.attributes.entries, ∀ c ∈ e.2.toList, c ≠ ' ' ∧ c ≠ '\n'

theorem HasPlainLine.words_plain {n : Node} (h : n.HasPlainLine) :
    ∀ e ∈ n.attributes.entries, ∀ c ∈ (outlineWord e).toList, c ≠ ' ' ∧ c ≠ '\n' := by
  intro e he c hc
  have hequals : "=".toList = ['='] := by decide
  rw [outlineWord, String.toList_append, String.toList_append, hequals, List.mem_append, List.mem_append] at hc
  rcases hc with (hname | hsign) | hvalue
  · exact (h.names_plain e he c hname).imp id And.left
  · rw [List.mem_singleton.1 hsign]
    decide
  · exact h.values_plain e he c hvalue

theorem HasPlainLine.blank_not_mem_words {n : Node} (h : n.HasPlainLine) :
    ∀ e ∈ n.attributes.entries, ' ' ∉ (outlineWord e).toList :=
  fun e he hblank => (h.words_plain e he ' ' hblank).1 rfl

theorem HasPlainLine.outlineWord_inj {n m : Node} (hn : n.HasPlainLine) (hm : m.HasPlainLine) :
    ∀ e ∈ n.attributes.entries, ∀ f ∈ m.attributes.entries, outlineWord e = outlineWord f → e = f := by
  intro e he f hf h
  have hequals : "=".toList = ['='] := by decide
  have hchars := congrArg String.toList h
  simp only [outlineWord, String.toList_append, hequals, List.append_assoc, List.singleton_append] at hchars
  obtain ⟨hname, hvalue⟩ := append_cons_inj_of_not_mem (fun hc => (hn.names_plain e he '=' hc).2.2 rfl)
    (fun hc => (hm.names_plain f hf '=' hc).2.2 rfl) hchars
  exact Prod.ext (String.toList_injective hname) (String.toList_injective hvalue)

theorem toList_outlineLine (n : Node) :
    n.outlineLine.toList = n.kind.toList ++ (trailed " " (n.attributes.entries.map outlineWord)).toList := by
  rw [outlineLine, outlineAttributes_eq, String.toList_append]

theorem HasPlainLine.blank_not_mem_head? {n : Node} (h : n.HasPlainLine) : ' ' ∉ n.outlineLine.toList.head? := by
  rw [toList_outlineLine]
  cases hkind : n.kind.toList with
  | nil => exact absurd (String.toList_eq_nil_iff.1 hkind) h.kind_ne
  | cons c rest =>
    intro hc
    obtain rfl : c = ' ' := Option.some.inj hc
    exact (h.kind_plain ' ' (by rw [hkind]; exact List.mem_cons_self)).1 rfl

theorem HasPlainLine.break_not_mem {n : Node} (h : n.HasPlainLine) : '\n' ∉ n.outlineLine.toList := by
  rw [toList_outlineLine, List.mem_append]
  rintro (hkind | hwords)
  · exact (h.kind_plain '\n' hkind).2 rfl
  · rcases mem_toList_trailed (by decide : " ".toList = [' ']) hwords with hbreak | ⟨word, hword, hbreak⟩
    · exact absurd hbreak (by decide)
    · obtain ⟨e, he, rfl⟩ := List.mem_map.1 hword
      exact (h.words_plain e he '\n' hbreak).2 rfl

end Node

namespace Visit

/-- A visit without what is below its node. -/
def bare (v : Visit) : Visit := ⟨Node.mk v.node.kind v.node.attributes [], v.depth⟩

theorem toList_line (v : Visit) :
    v.line.toList = List.replicate (2 * v.depth) ' ' ++ v.node.outlineLine.toList := by
  rw [line, String.toList_append, String.toList_ofList]

theorem break_not_mem_line {v : Visit} (hv : v.node.HasPlainLine) : '\n' ∉ v.line.toList := by
  rw [toList_line, List.mem_append, not_or]
  exact ⟨fun h => absurd (List.eq_of_mem_replicate h) (by decide), hv.break_not_mem⟩

theorem bare_eq_of_line_eq {v w : Visit} (hv : v.node.HasPlainLine) (hw : w.node.HasPlainLine)
    (h : v.line = w.line) : v.bare = w.bare := by
  have hblank : " ".toList = [' '] := by decide
  have hchars := congrArg String.toList h
  rw [toList_line, toList_line] at hchars
  -- a kind begins with no blank, so the blanks in front of it are the indentation
  obtain ⟨hindent, hline⟩ := replicate_append_inj hv.blank_not_mem_head? hw.blank_not_mem_head? hchars
  rw [Node.toList_outlineLine, Node.toList_outlineLine] at hline
  obtain ⟨hkind, hwords⟩ := append_inj_of_not_mem (fun hc => (hv.kind_plain ' ' hc).1 rfl)
    (fun hc => (hw.kind_plain ' ' hc).1 rfl) (head?_toList_trailed hblank _) (head?_toList_trailed hblank _)
    hline
  have hentries := map_eq_of_trailed_eq_of_not_mem (g := id) hblank hv.blank_not_mem_words
    hw.blank_not_mem_words (hv.outlineWord_inj hw) (String.toList_injective hwords)
  rw [List.map_id, List.map_id] at hentries
  have hdepth : v.depth = w.depth := by omega
  rw [bare, bare, hdepth, String.toList_injective hkind, NameMap.eq_of_entries_eq hentries]

end Visit

/-! ## Trees told by their levels -/

namespace Node

/-- A tree is told by its bare visits, whatever comes behind them that is not below it. -/
def ToldByVisits (n : Node) : Prop :=
  ∀ (m : Node) (level : Nat) (rest others : List Visit), (∀ v ∈ rest.head?, v.depth ≤ level) →
    (∀ v ∈ others.head?, v.depth ≤ level) →
    (n.visitsFrom level).map Visit.bare ++ rest = (m.visitsFrom level).map Visit.bare ++ others →
    n = m ∧ rest = others

theorem head?_visits (c : Node) (cs : List Node) (level : Nat) (rest : List Visit) :
    (((c :: cs).flatMap (visitsFrom level)).map Visit.bare ++ rest).head? =
      some ⟨mk c.kind c.attributes [], level⟩ := by
  rw [List.flatMap_cons, visitsFrom_eq]
  rfl

theorem depth_of_mem_head?_visits {cs : List Node} {level : Nat} {rest : List Visit}
    (hrest : ∀ v ∈ rest.head?, v.depth ≤ level) :
    ∀ v ∈ ((cs.flatMap (visitsFrom (level + 1))).map Visit.bare ++ rest).head?, v.depth ≤ level + 1 := by
  cases cs with
  | nil => exact fun v hv => Nat.le_succ_of_le (hrest v hv)
  | cons c cs =>
    rw [head?_visits]
    exact fun v hv => Option.some.inj hv ▸ Nat.le_refl _

/-- The visits that follow a node one level deeper are those below it, so its children are told by theirs. -/
theorem toldByVisits_each {cs ds : List Node} (hcs : ∀ c ∈ cs, c.ToldByVisits) {level : Nat}
    {rest others : List Visit} (hrest : ∀ v ∈ rest.head?, v.depth ≤ level)
    (hothers : ∀ v ∈ others.head?, v.depth ≤ level)
    (h : (cs.flatMap (visitsFrom (level + 1))).map Visit.bare ++ rest =
      (ds.flatMap (visitsFrom (level + 1))).map Visit.bare ++ others) : cs = ds ∧ rest = others := by
  induction cs generalizing ds with
  | nil =>
    cases ds with
    | nil => exact ⟨rfl, h⟩
    | cons d ds =>
      have hhead := hrest _ ((congrArg List.head? h).trans (head?_visits d ds (level + 1) others))
      exact absurd hhead (Nat.not_succ_le_self level)
  | cons c cs ih =>
    cases ds with
    | nil =>
      have hhead := hothers _ ((congrArg List.head? h).symm.trans (head?_visits c cs (level + 1) rest))
      exact absurd hhead (Nat.not_succ_le_self level)
    | cons d ds =>
      rw [List.forall_mem_cons] at hcs
      rw [List.flatMap_cons, List.flatMap_cons, List.map_append, List.map_append, List.append_assoc,
        List.append_assoc] at h
      obtain ⟨rfl, hbehind⟩ := hcs.1 d (level + 1) _ _ (depth_of_mem_head?_visits hrest)
        (depth_of_mem_head?_visits hothers) h
      obtain ⟨rfl, hrests⟩ := ih hcs.2 hbehind
      exact ⟨rfl, hrests⟩

theorem toldByVisits (n : Node) : n.ToldByVisits := by
  induction n with
  | node k a cs ih =>
    rintro ⟨k', a', ds⟩ level rest others hrest hothers h
    rw [visitsFrom_eq, visitsFrom_eq, List.map_cons, List.map_cons, List.cons_append, List.cons_append] at h
    obtain ⟨hroot, hbelow⟩ := List.cons.inj h
    obtain ⟨rfl, rfl, -⟩ := Node.mk.inj (congrArg Visit.node hroot)
    obtain ⟨rfl, hrests⟩ := toldByVisits_each ih hrest hothers hbelow
    exact ⟨rfl, hrests⟩

/-- Trees of plain lines have the same outline only if they are the same, so an outline shows every difference in
kinds, attributes, nesting and the order of children. -/
theorem outline_eq_iff {a b : Node} (ha : ∀ n ∈ a.preorder, n.HasPlainLine)
    (hb : ∀ n ∈ b.preorder, n.HasPlainLine) : a.outline = b.outline ↔ a = b := by
  refine ⟨fun h => ?_, congrArg outline⟩
  have hbreak : "\n".toList = ['\n'] := by decide
  have hplain {n : Node} (hn : ∀ m ∈ n.preorder, m.HasPlainLine) :
      ∀ v ∈ n.visitsFrom 0, v.node.HasPlainLine := by
    intro v hv
    exact hn v.node (n.map_node_visitsFrom 0 ▸ List.mem_map_of_mem hv)
  have hlines : trailed "\n" ((a.visitsFrom 0).map Visit.line) = trailed "\n" ((b.visitsFrom 0).map Visit.line) := by
    rw [← break_append_outline, ← break_append_outline, h]
  have hvisits : (a.visitsFrom 0).map Visit.bare = (b.visitsFrom 0).map Visit.bare :=
    map_eq_of_trailed_eq_of_not_mem hbreak (fun v hv => Visit.break_not_mem_line (hplain ha v hv))
      (fun v hv => Visit.break_not_mem_line (hplain hb v hv))
      (fun v hv w hw => Visit.bare_eq_of_line_eq (hplain ha v hv) (hplain hb w hw)) hlines
  have hnone : ∀ v ∈ ([] : List Visit).head?, v.depth ≤ 0 := fun v hv => nomatch hv
  exact (a.toldByVisits b 0 [] [] hnone hnone (by rw [List.append_nil, List.append_nil, hvisits])).1

theorem outline_eq_iff_nested :
    let last := (leaf "c").withAttribute "" "=x"
    let nested := branch "a" [branch "b" [last]]
    let flat := branch "a" [leaf "b", last]
    (∀ n ∈ nested.preorder, n.HasPlainLine) ∧ (∀ n ∈ flat.preorder, n.HasPlainLine) ∧
      nested.outline ≠ flat.outline := by
  intro last nested flat
  have hlast : last.HasPlainLine := by
    constructor <;> simp [last, leaf, withAttribute, NameMap.set, NameMap.insertEntry]
  have hbranch (k : String) (hk : k = "a" ∨ k = "b") (cs : List Node) : (branch k cs).HasPlainLine := by
    rcases hk with rfl | rfl <;> constructor <;> simp [branch]
  have hnested : ∀ n ∈ nested.preorder, n.HasPlainLine := by
    have hpreorder : nested.preorder = [nested, branch "b" [last], last] := rfl
    rw [hpreorder, List.forall_mem_cons, List.forall_mem_cons, List.forall_mem_singleton]
    exact ⟨hbranch "a" (.inl rfl) _, hbranch "b" (.inr rfl) _, hlast⟩
  have hflat : ∀ n ∈ flat.preorder, n.HasPlainLine := by
    have hpreorder : flat.preorder = [flat, branch "b" [], last] := rfl
    rw [hpreorder, List.forall_mem_cons, List.forall_mem_cons, List.forall_mem_singleton]
    exact ⟨hbranch "a" (.inl rfl) _, hbranch "b" (.inr rfl) _, hlast⟩
  exact ⟨hnested, hflat, fun h => absurd ((outline_eq_iff hnested hflat).1 h) (by decide)⟩

/-- A kind with a space in it can look like a kind with an attribute. -/
example : (leaf "a b=c").outline = ((leaf "a").withAttribute "b" "c").outline := by decide

end Node
end DialectConversion
