import DialectConversion.Conversion.Step
import DialectConversion.Proofs.Tree.Preorder

/-! What a step of a conversion contributes, apart from the state it is applied to: the children it
adds to the node under construction, the findings it adds to the list, and its error. Steps that are
built from other steps contribute what is built from the contributions of these. -/
namespace DialectConversion
set_option autoImplicit false

namespace Node

/-- The node with more children, after the others. -/
def withChildren (n : Node) (more : List Node) : Node :=
  mk n.kind n.attributes (n.children ++ more)

@[simp] theorem withChildren_nil (n : Node) : n.withChildren [] = n := by
  cases n with
  | mk k a cs => simp [withChildren]

@[simp] theorem withChildren_withChildren (n : Node) (first second : List Node) :
    (n.withChildren first).withChildren second = n.withChildren (first ++ second) := by
  simp [withChildren]

theorem withChild_eq_withChildren (n child : Node) : n.withChild child = n.withChildren [child] := rfl

@[simp] theorem children_withChildren (n : Node) (more : List Node) :
    (n.withChildren more).children = n.children ++ more := rfl

theorem bareNodes_withChildren (p : Node → Bool) (n : Node) (more : List Node) :
    (n.withChildren more).bareNodes p = n.bareNodes p ++ more.flatMap (bareNodes p) := by
  obtain ⟨k, a, cs⟩ := n
  rw [withChildren, bareNodes_mk, bareNodes_mk, kind_mk, attributes_mk, children_mk, List.flatMap_append,
    List.append_assoc]

end Node

/-- What a step adds to the state it is applied to, and the error if one stops it. -/
structure Contribution where
  nodes : List Node := []
  findings : List Diagnostic := []
  error? : Option ConversionError := none
  deriving DecidableEq

namespace Contribution

/-- The state that a contribution makes of a state. The depth stays as it is. -/
def appliedTo (c : Contribution) (p : Pass) : Pass :=
  ⟨p.parent.withChildren c.nodes, p.diagnostics ++ c.findings, p.depth⟩

/-- What a step leaves behind that makes the contribution and, unless it is stopped, hands back the child
that it adds. -/
def progress (c : Contribution) (p : Pass) : Progress where
  pass := c.appliedTo p
  error? := c.error?
  returned? := if c.error?.isNone then some p.parent.children.length else none

/-- One contribution, and unless it ends in an error another one. -/
def andThen (first second : Contribution) : Contribution :=
  match first.error? with
  | some _ => first
  | none => ⟨first.nodes ++ second.nodes, first.findings ++ second.findings, second.error?⟩

/-- The contributions in order, up to the first that ends in an error. -/
def inOrder : List Contribution → Contribution
  | [] => {}
  | c :: rest => c.andThen (inOrder rest)

/-- A contribution made to a new child. -/
def under (child : Node) (c : Contribution) : Contribution :=
  { c with nodes := [child.withChildren c.nodes] }

theorem andThen_of_success {first : Contribution} (h : first.error? = none) (second : Contribution) :
    first.andThen second =
      ⟨first.nodes ++ second.nodes, first.findings ++ second.findings, second.error?⟩ := by
  simp only [andThen, h]

theorem andThen_of_error {first : Contribution} {e : ConversionError} (h : first.error? = some e)
    (second : Contribution) : first.andThen second = first := by
  simp only [andThen, h]

theorem error?_andThen (first second : Contribution) :
    (first.andThen second).error? = first.error?.or second.error? := by
  cases h : first.error? with
  | none => rw [andThen_of_success h, Option.none_or]
  | some e => rw [andThen_of_error h, h, Option.some_or]

theorem andThen_error?_eq_none_iff (first second : Contribution) :
    (first.andThen second).error? = none ↔ first.error? = none ∧ second.error? = none := by
  rw [error?_andThen, Option.or_eq_none_iff]

@[simp] theorem inOrder_nil : inOrder [] = {} := rfl

theorem inOrder_cons (c : Contribution) (rest : List Contribution) :
    inOrder (c :: rest) = c.andThen (inOrder rest) := rfl

@[simp] theorem inOrder_singleton (c : Contribution) : inOrder [c] = c := by
  rw [inOrder_cons, inOrder_nil]
  cases h : c.error? with
  | some e => exact andThen_of_error h _
  | none =>
    obtain ⟨nodes, findings, error?⟩ := c
    obtain rfl : error? = none := h
    rw [andThen_of_success rfl, List.append_nil, List.append_nil]

theorem inOrder_error?_eq_none_iff (cs : List Contribution) :
    (inOrder cs).error? = none ↔ ∀ c ∈ cs, c.error? = none := by
  induction cs with
  | nil => simp
  | cons c rest ih => rw [inOrder_cons, andThen_error?_eq_none_iff, ih, List.forall_mem_cons]

/-! ### Runs -/

theorem andThen_assoc (first second third : Contribution) :
    (first.andThen second).andThen third = first.andThen (second.andThen third) := by
  cases h : first.error? with
  | some e => rw [andThen_of_error h, andThen_of_error h, andThen_of_error h]
  | none =>
    rw [andThen_of_success h, andThen_of_success h]
    cases h' : second.error? with
    | some e => rw [andThen_of_error h', andThen_of_error rfl, h']
    | none => rw [andThen_of_success h', andThen_of_success rfl, List.append_assoc, List.append_assoc]

theorem inOrder_append (cs ds : List Contribution) :
    inOrder (cs ++ ds) = (inOrder cs).andThen (inOrder ds) := by
  induction cs with
  | nil => rw [List.nil_append, inOrder_nil, andThen_of_success rfl, List.nil_append, List.nil_append]
  | cons c rest ih => rw [List.cons_append, inOrder_cons, ih, inOrder_cons, andThen_assoc]

theorem inOrder_flatMap {α : Type} (f : α → List Contribution) (xs : List α) :
    inOrder (xs.flatMap f) = inOrder (xs.map fun x => inOrder (f x)) := by
  induction xs with
  | nil => rfl
  | cons x xs ih => rw [List.flatMap_cons, inOrder_append, ih, List.map_cons, inOrder_cons]

theorem error?_inOrder (cs : List Contribution) : (inOrder cs).error? = cs.findSome? error? := by
  induction cs with
  | nil => rfl
  | cons c rest ih =>
    rw [inOrder_cons, List.findSome?_cons]
    cases h : c.error? with
    | some e => rw [andThen_of_error h, h]
    | none => rw [andThen_of_success h]; exact ih

theorem inOrder_map_eq_flatMap {α : Type} {f : α → Contribution} {g : α → List Node}
    {d : α → List Diagnostic} {xs : List α} (h : ∀ x ∈ xs, f x = ⟨g x, d x, none⟩) :
    inOrder (xs.map f) = ⟨xs.flatMap g, xs.flatMap d, none⟩ := by
  induction xs with
  | nil => rfl
  | cons x xs ih =>
    rw [List.forall_mem_cons] at h
    rw [List.map_cons, inOrder_cons, ih h.2, h.1]
    rfl

theorem inOrder_map_of_success {α : Type} {f : α → Contribution} {g : α → Node}
    {d : α → List Diagnostic} {xs : List α} (h : ∀ x ∈ xs, f x = ⟨[g x], d x, none⟩) :
    inOrder (xs.map f) = ⟨xs.map g, xs.flatMap d, none⟩ := by
  rw [inOrder_map_eq_flatMap h, List.map_eq_flatMap]

/-! ### Trees taken apart

The findings and the error of a run, and in which order nodes are added, do not depend on the nodes under
which its parts put what they add. -/

/-- The contribution with its trees taken apart into the nodes that a test keeps. -/
def takenApart (p : Node → Bool) (c : Contribution) : Contribution :=
  { c with nodes := c.nodes.flatMap (Node.bareNodes p) }

section
variable (p : Node → Bool)

@[simp] theorem error?_takenApart (c : Contribution) : (c.takenApart p).error? = c.error? := rfl

/-- A child that the test drops leaves what is put under it. -/
theorem takenApart_under {child : Node} (h : child.bareNodes p = []) (c : Contribution) :
    (c.under child).takenApart p = c.takenApart p := by
  unfold under takenApart
  rw [List.flatMap_singleton, Node.bareNodes_withChildren, h, List.nil_append]

theorem takenApart_andThen (first second : Contribution) :
    (first.andThen second).takenApart p = (first.takenApart p).andThen (second.takenApart p) := by
  cases h : first.error? with
  | some e =>
    have herror : (first.takenApart p).error? = some e := h
    rw [andThen_of_error h, andThen_of_error herror]
  | none =>
    have hsuccess : (first.takenApart p).error? = none := h
    rw [andThen_of_success h, andThen_of_success hsuccess]
    simp only [takenApart, List.flatMap_append]

theorem takenApart_inOrder {α : Type} (f : α → Contribution) (xs : List α) :
    (inOrder (xs.map f)).takenApart p = inOrder (xs.map fun x => (f x).takenApart p) := by
  induction xs with
  | nil => rfl
  | cons x xs ih => rw [List.map_cons, inOrder_cons, takenApart_andThen, ih, List.map_cons, inOrder_cons]

end

end Contribution

namespace Step

theorem andThen_of_success {s : Step} {p : Pass} (h : (s p).error? = none) (t : Step) :
    s.andThen t p = t (s p).pass := by
  simp only [andThen, h]

theorem andThen_of_error {s : Step} {p : Pass} {e : ConversionError} (h : (s p).error? = some e)
    (t : Step) : s.andThen t p = s p := by
  simp only [andThen, h]

/-- A step adds the same to every state, namely the contribution, and ends in its error. -/
structure Adds (s : Step) (c : Contribution) : Prop where
  pass : ∀ p, (s p).pass = c.appliedTo p
  error? : ∀ p, (s p).error? = c.error?

/-- What a step adds to a bare state. -/
def contribution (s : Step) : Contribution :=
  let result := s ⟨Node.leaf "", [], 0⟩
  ⟨result.pass.parent.children, result.pass.diagnostics, result.error?⟩

namespace Adds

variable {s t : Step} {a b : Contribution}

/-- A step has at most one contribution. -/
theorem contribution_eq (h : s.Adds a) : s.contribution = a := by
  rw [contribution, h.pass, h.error?]
  rfl

theorem done : Step.done.Adds {} where
  pass p := by simp [Step.done, Contribution.appliedTo]
  error? _ := rfl

theorem fail (e : ConversionError) : (Step.fail e).Adds { error? := some e } where
  pass p := by simp [Step.fail, Contribution.appliedTo]
  error? _ := rfl

theorem report (d : Diagnostic) : (Step.report d).Adds { findings := [d] } where
  pass p := by simp [Step.report, Contribution.appliedTo]
  error? _ := rfl

theorem andThen (hs : s.Adds a) (ht : t.Adds b) : (s.andThen t).Adds (a.andThen b) := by
  cases h : a.error? with
  | some e =>
    have hp (p : Pass) : s.andThen t p = s p := andThen_of_error ((hs.error? p).trans h) t
    rw [Contribution.andThen_of_error h]
    exact ⟨fun p => by rw [hp, hs.pass], fun p => by rw [hp, hs.error?]⟩
  | none =>
    have hp (p : Pass) : s.andThen t p = t (a.appliedTo p) := by
      rw [andThen_of_success ((hs.error? p).trans h), hs.pass]
    rw [Contribution.andThen_of_success h]
    refine ⟨fun p => ?_, fun p => by rw [hp, ht.error?]⟩
    rw [hp, ht.pass]
    simp [Contribution.appliedTo]

theorem under (child : Node) (h : s.Adds a) : (Step.under child s).Adds (a.under child) where
  pass p := by
    simp only [Step.under]
    rw [h.pass]
    simp [Contribution.appliedTo, Contribution.under, Node.withChild_eq_withChildren]
  error? p := h.error? _

theorem deeper (h : s.Adds a) : (Step.deeper s).Adds a where
  pass p := by
    simp only [Step.deeper]
    rw [h.pass]
    simp [Contribution.appliedTo]
  error? p := h.error? _

theorem inOrder {α : Type} {step : α → Step} {c : α → Contribution} {xs : List α}
    (h : ∀ x ∈ xs, (step x).Adds (c x)) :
    (Step.inOrder (xs.map step)).Adds (Contribution.inOrder (xs.map c)) := by
  induction xs with
  | nil => exact done
  | cons x xs ih =>
    rw [List.forall_mem_cons] at h
    exact h.1.andThen (ih h.2)

end Adds

/-- A step with a contribution of at most one node, which hands back the child that it added unless it
is stopped. It may be stopped before it adds the child, and then there is none. -/
structure Attaches (s : Step) (c : Contribution) : Prop extends s.Adds c where
  length_le : c.nodes.length ≤ 1
  length_eq : c.error? = none → c.nodes.length = 1
  returned? : ∀ p, (s p).returned? = if c.error?.isNone then some p.parent.children.length else none

namespace Attaches

variable {s t : Step} {a b : Contribution}

theorem run_eq (h : s.Attaches a) (p : Pass) : s p = a.progress p := by
  rw [Contribution.progress, ← h.pass p, ← h.returned? p, ← h.error? p]

theorem fail (e : ConversionError) : (Step.fail e).Attaches { error? := some e } where
  toAdds := Adds.fail e
  length_le := Nat.zero_le 1
  length_eq h := absurd h nofun
  returned? _ := rfl

theorem under (child : Node) (h : s.Adds a) : (Step.under child s).Attaches (a.under child) where
  toAdds := h.under child
  length_le := Nat.le_refl 1
  length_eq _ := rfl
  returned? p := by
    have hinner : (s { p with parent := child }).error? = a.error? := h.error? _
    simp only [Step.under, hinner]
    rfl

theorem after {ds : List Diagnostic} (hs : s.Adds { findings := ds }) (ht : t.Attaches b) :
    (s.andThen t).Attaches { b with findings := ds ++ b.findings } where
  toAdds := hs.andThen ht.toAdds
  length_le := ht.length_le
  length_eq := ht.length_eq
  returned? p := by
    rw [andThen_of_success (hs.error? p), hs.pass, ht.returned?]
    simp [Contribution.appliedTo]

theorem deeper (h : s.Attaches a) : (Step.deeper s).Attaches a where
  toAdds := h.toAdds.deeper
  length_le := h.length_le
  length_eq := h.length_eq
  returned? _ := h.returned? _

end Attaches

/-! ## Relations between steps -/

/-- A relation that holds between two steps as soon as they are built in the same way from steps between
which it holds. The one error that rules build in is that of a missing part. -/
structure Congruence (R : Step → Step → Prop) : Prop where
  done : R done done
  missing : ∀ kind part, R (fail (.missingSubstructure kind part)) (fail (.missingSubstructure kind part))
  report : ∀ d, R (report d) (report d)
  andThen : ∀ {s s' t t' : Step}, R s s' → R t t' → R (s.andThen t) (s'.andThen t')
  under : ∀ {s s' : Step} (child : Node), R s s' → R (under child s) (under child s')

namespace Congruence

theorem eq : Congruence Eq where
  done := rfl
  missing _ _ := rfl
  report _ := rfl
  andThen := by
    rintro s _ t _ rfl rfl
    rfl
  under := by
    rintro s _ child rfl
    rfl

theorem inOrder {R : Step → Step → Prop} (hR : Congruence R) {α : Type} {step step' : α → Step}
    {xs : List α} (h : ∀ x ∈ xs, R (step x) (step' x)) :
    R (Step.inOrder (xs.map step)) (Step.inOrder (xs.map step')) := by
  induction xs with
  | nil => exact hR.done
  | cons x xs ih =>
    rw [List.forall_mem_cons] at h
    exact hR.andThen h.1 (ih h.2)

end Congruence
end Step
end DialectConversion
