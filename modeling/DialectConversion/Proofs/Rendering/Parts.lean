import DialectConversion.Proofs.Conversion.Relabelling
import DialectConversion.Render

/-! Rendering of a node in terms of what its children show of themselves, and what a contribution
shows. -/
namespace DialectConversion
set_option autoImplicit false

namespace Node

/-- What a node shows of itself to the form of its parent. -/
def part (n : Node) : Render.Part := ⟨n.kind, n.render⟩

theorem renderEach_eq_map (cs : List Node) : renderEach cs = cs.map part := by
  induction cs with
  | nil => rfl
  | cons c rest ih => rw [renderEach, ih, List.map_cons, part]

theorem render_mk (k : String) (a : Attributes) (cs : List Node) :
    (mk k a cs).render = Render.form (TargetKind.ofLabel? k) a (cs.map part) := by
  rw [render, renderEach_eq_map]

theorem part_mk (k : String) (a : Attributes) (cs : List Node) :
    (mk k a cs).part = ⟨k, Render.form (TargetKind.ofLabel? k) a (cs.map part)⟩ := by
  rw [part, render_mk, kind_mk]

/-- Below the document a single text stays as it is, also an empty one. -/
theorem render_document_singleton (n : Node) : (branch TargetKind.document.label [n]).render = n.render := by
  rw [branch, render_mk, TargetKind.ofLabel?_label, List.map_singleton]
  change Text.joined ";\n" (List.filter (fun statement => !statement.isEmpty) [n.render]) = _
  by_cases h : n.render = ""
  · rw [h]
    rfl
  · rw [List.filter_cons_of_pos (by simpa using h)]
    rfl

theorem part_relabelled_mk_label (k : SourceKind) (a : Attributes) (cs : List Node) :
    (mk k.label a cs).relabelled.part =
      ⟨k.target.label, Render.form (some k.target) a (cs.map fun c => c.relabelled.part)⟩ := by
  rw [relabelled_mk_label, part_mk, TargetKind.ofLabel?_label, List.map_map]
  rfl

end Node

namespace Contribution

/-- A contribution that succeeds, whose nodes show the given parts, with the given findings. -/
structure Shows (c : Contribution) (parts : List Render.Part) (ds : List Diagnostic) : Prop where
  parts_eq : c.nodes.map Node.part = parts
  findings_eq : c.findings = ds
  error_eq : c.error? = none

namespace Shows

variable {a b : Contribution} {ps qs : List Render.Part} {ds es : List Diagnostic}

theorem andThen (ha : a.Shows ps ds) (hb : b.Shows qs es) : (a.andThen b).Shows (ps ++ qs) (ds ++ es) := by
  rw [andThen_of_success ha.error_eq]
  refine ⟨?_, ?_, hb.error_eq⟩
  · rw [List.map_append, ha.parts_eq, hb.parts_eq]
  · rw [ha.findings_eq, hb.findings_eq]

theorem under (child : Node) (h : a.Shows ps ds) :
    (a.under child).Shows [⟨child.kind, Render.form (TargetKind.ofLabel? child.kind) child.attributes
      (child.children.map Node.part ++ ps)⟩] ds := by
  refine ⟨?_, h.findings_eq, h.error_eq⟩
  rw [Contribution.under, List.map_cons, List.map_nil, Node.withChildren, Node.part_mk, List.map_append,
    h.parts_eq]

theorem under_leaf (k : TargetKind) (h : a.Shows ps ds) :
    (a.under (Node.leaf k.label)).Shows [⟨k.label, Render.form (some k) {} ps⟩] ds := by
  rw [← TargetKind.ofLabel?_label k]
  exact h.under (Node.leaf k.label)

theorem under_rebuiltName (name : String) (h : a.Shows ps ds) :
    (a.under (Rule.rebuiltName name)).Shows
      [⟨TargetKind.simpleIdentifier.label, name ++ Render.adjacentParts ps⟩] ds :=
  h.under (Rule.rebuiltName name)

theorem inOrder {α : Type} {f : α → Contribution} {p : α → Render.Part} {d : α → List Diagnostic}
    {xs : List α} (h : ∀ x ∈ xs, (f x).Shows [p x] (d x)) :
    (Contribution.inOrder (xs.map f)).Shows (xs.map p) (xs.flatMap d) := by
  induction xs with
  | nil => exact ⟨rfl, rfl, rfl⟩
  | cons x xs ih =>
    rw [List.forall_mem_cons] at h
    exact h.1.andThen (ih h.2)

end Shows
end Contribution
end DialectConversion
