import DialectConversion.Proofs.Conversion.Delegation
import Mathlib.Data.List.Induction
import Mathlib.Data.List.Nodup

/-! Registries keep the first converter of each kind. Calls of `register` on a new registry are followed one by
one: what the registry holds, and what a call answers, is told by the converters of the earlier calls alone.
Building a registry from a list is the run in which every call succeeds, and it is the same for every order of
converters of different kinds. -/
namespace DialectConversion
set_option autoImplicit false

namespace Registry

/-! ## Calls on one registry -/

/-- What calls of `register` for the converters in order answer, and what they leave of a new registry. -/
def calls (cs : List Converter) : List (Except RegistryError Unit) × Registry :=
  Id.run ((cs.mapM registerIn).run empty)

/-- The first of the converters for a kind. -/
def firstFor (cs : List Converter) (kind : String) : Option Converter := cs.find? fun c => c.nodeKind = kind

/-- What a call for a converter is answered after calls for the given ones. -/
def answerAfter (earlier : List Converter) (c : Converter) : Except RegistryError Unit :=
  match firstFor earlier c.nodeKind with
  | some first => .error (.duplicateConverter c.nodeKind first.name c.name)
  | none => .ok ()

theorem firstFor_append (cs : List Converter) (c : Converter) (kind : String) :
    firstFor (cs ++ [c]) kind = (firstFor cs kind).or (if kind = c.nodeKind then some c else none) := by
  rw [firstFor, List.find?_append, ← firstFor, List.find?_singleton]
  by_cases h : kind = c.nodeKind
  · rw [if_pos h, if_pos (decide_eq_true h.symm)]
  · rw [if_neg h, if_neg (by simpa using Ne.symm h)]

/-- What is held for each kind is the first of the given converters for it. -/
def HoldsFirst (r : Registry) (cs : List Converter) : Prop :=
  ∀ kind, r.get? kind = (firstFor cs kind).map Converter.toNamedRule

theorem holdsFirst_empty : empty.HoldsFirst [] := fun _ => rfl

/-- The registry with one more converter, in place of the one that it may have for the kind. -/
def put (r : Registry) (c : Converter) : Registry := ⟨r.byKind.set c.nodeKind c.toNamedRule⟩

namespace HoldsFirst

variable {r : Registry} {cs : List Converter} (h : r.HoldsFirst cs) {c first : Converter}

include h

theorem register_of_some (hfirst : firstFor cs c.nodeKind = some first) :
    r.register c = .error (.duplicateConverter c.nodeKind first.name c.name) := by
  rw [register, h c.nodeKind, hfirst]
  rfl

theorem register_of_none (hnone : firstFor cs c.nodeKind = none) : r.register c = .ok (r.put c) := by
  rw [register, h c.nodeKind, hnone]
  rfl

theorem append_of_some (hfirst : firstFor cs c.nodeKind = some first) : r.HoldsFirst (cs ++ [c]) := by
  intro kind
  rw [h kind, firstFor_append]
  by_cases hkind : kind = c.nodeKind
  · rw [hkind, hfirst, Option.some_or]
  · rw [if_neg hkind, Option.or_none]

theorem put_of_none (hnone : firstFor cs c.nodeKind = none) : (r.put c).HoldsFirst (cs ++ [c]) := by
  intro kind
  have hput : (r.put c).get? kind = if kind = c.nodeKind then some c.toNamedRule else r.get? kind :=
    NameMap.get?_set r.byKind c.nodeKind kind c.toNamedRule
  rw [hput, firstFor_append]
  by_cases hkind : kind = c.nodeKind
  · rw [if_pos hkind, if_pos hkind, hkind, hnone, Option.none_or]
    rfl
  · rw [if_neg hkind, if_neg hkind, Option.or_none, h kind]

theorem size_put (hnone : firstFor cs c.nodeKind = none) : (r.put c).size = r.size + 1 := by
  have hfree : r.byKind.entries.lookup c.nodeKind = none := by
    have hget := h c.nodeKind
    rw [hnone] at hget
    exact hget
  exact NameMap.length_insertEntry hfree c.toNamedRule

end HoldsFirst

theorem registerIn_run_ok {c : Converter} {r added : Registry} (h : r.register c = .ok added) :
    Id.run ((registerIn c).run r) = (.ok (), added) := by
  unfold registerIn
  simp only [bind_pure_comp, StateT.run_bind, StateT.run_get, pure_bind, h, StateT.run_map, StateT.run_set,
    map_pure, Id.run_pure]

theorem registerIn_run_error {c : Converter} {r : Registry} {e : RegistryError} (h : r.register c = .error e) :
    Id.run ((registerIn c).run r) = (.error e, r) := by
  unfold registerIn
  simp only [bind_pure_comp, StateT.run_bind, StateT.run_get, pure_bind, h, StateT.run_pure, Id.run_pure]

/-- One call: its answer, what the registry holds behind it, its size, and that a refusal leaves it alone. -/
theorem HoldsFirst.call {r : Registry} {cs : List Converter} (h : r.HoldsFirst cs) (c : Converter) :
    ∃ left : Registry, Id.run ((registerIn c).run r) = (answerAfter cs c, left) ∧ left.HoldsFirst (cs ++ [c]) ∧
      left.size = r.size + (answerAfter cs c).isOk.toNat ∧ ((answerAfter cs c).isOk = false → left = r) := by
  unfold answerAfter
  cases hfirst : firstFor cs c.nodeKind with
  | some first =>
    exact ⟨r, registerIn_run_error (h.register_of_some hfirst), h.append_of_some hfirst, rfl, fun _ => rfl⟩
  | none =>
    exact ⟨r.put c, registerIn_run_ok (h.register_of_none hfirst), h.put_of_none hfirst, h.size_put hfirst,
      fun hfalse => nomatch hfalse⟩

/-! ## Runs -/

theorem calls_append (cs : List Converter) (c : Converter) :
    calls (cs ++ [c]) = ((calls cs).1 ++ [(Id.run ((registerIn c).run (calls cs).2)).1],
      (Id.run ((registerIn c).run (calls cs).2)).2) := by
  unfold calls
  simp only [List.mapM_append, List.mapM_cons, List.mapM_nil, bind_pure_comp, map_pure, Functor.map_map,
    StateT.run_bind, StateT.run_map, Id.run_bind, Id.run_map]

theorem holdsFirst_calls (cs : List Converter) : (calls cs).2.HoldsFirst cs := by
  -- from the end: what a call does depends on the calls before it, not on those behind it
  induction cs using List.reverseRecOn with
  | nil => exact holdsFirst_empty
  | append_singleton cs c ih =>
    obtain ⟨left, hcall, hleft, -, -⟩ := ih.call c
    rw [calls_append, hcall]
    exact hleft

theorem answers_append (cs : List Converter) (c : Converter) :
    (calls (cs ++ [c])).1 = (calls cs).1 ++ [answerAfter cs c] := by
  obtain ⟨left, hcall, -, -, -⟩ := (holdsFirst_calls cs).call c
  rw [calls_append, hcall]

theorem length_answers (cs : List Converter) : (calls cs).1.length = cs.length := by
  induction cs using List.reverseRecOn with
  | nil => rfl
  | append_singleton cs c ih => rw [answers_append, List.length_append, List.length_append, ih]; rfl

theorem getElem?_answers (before : List Converter) (c : Converter) (after : List Converter) :
    (calls (before ++ c :: after)).1[before.length]? = some (answerAfter before c) := by
  induction after using List.reverseRecOn with
  | nil => rw [answers_append, ← length_answers before, List.getElem?_concat_length]
  | append_singleton after d ih =>
    have hsplit : before ++ c :: (after ++ [d]) = (before ++ c :: after) ++ [d] := by
      rw [List.append_assoc, List.cons_append]
    have hlt : before.length < (calls (before ++ c :: after)).1.length := by
      rw [length_answers, List.length_append, List.length_cons]
      omega
    rw [hsplit, answers_append, List.getElem?_append_left hlt, ih]

theorem calls_of_refused {cs : List Converter} {c : Converter} (h : (answerAfter cs c).isOk = false) :
    (calls (cs ++ [c])).2 = (calls cs).2 := by
  obtain ⟨left, hcall, -, -, hsame⟩ := (holdsFirst_calls cs).call c
  rw [calls_append, hcall]
  exact hsame h

theorem size_calls (cs : List Converter) : (calls cs).2.size = (calls cs).1.countP Except.isOk := by
  induction cs using List.reverseRecOn with
  | nil => rfl
  | append_singleton cs c ih =>
    obtain ⟨left, hcall, -, hsize, -⟩ := (holdsFirst_calls cs).call c
    rw [answers_append, List.countP_append, List.countP_singleton, ← ih, calls_append, hcall, hsize]
    cases (answerAfter cs c).isOk <;> rfl

theorem isEmpty_iff (r : Registry) : r.isEmpty = true ↔ r.size = 0 :=
  List.isEmpty_iff.trans List.length_eq_zero_iff.symm

/-! ## Lists of converters -/

theorem firstFor_eq_none_iff {cs : List Converter} {kind : String} :
    firstFor cs kind = none ↔ kind ∉ cs.map Converter.nodeKind := by
  rw [firstFor, List.find?_eq_none, List.mem_map]
  constructor
  · rintro h ⟨c, hc, rfl⟩
    exact h c hc (decide_eq_true rfl)
  · exact fun h c hc hkind => h ⟨c, hc, of_decide_eq_true hkind⟩

theorem nodup_append_iff {cs : List Converter} {c : Converter} :
    ((cs ++ [c]).map Converter.nodeKind).Nodup ↔
      (cs.map Converter.nodeKind).Nodup ∧ firstFor cs c.nodeKind = none := by
  rw [List.map_append, List.map_singleton, List.nodup_append_comm, List.singleton_append, List.nodup_cons,
    firstFor_eq_none_iff]
  exact and_comm

theorem of_firstFor {cs : List Converter} {kind : String} {c : Converter} (h : firstFor cs kind = some c) :
    c ∈ cs ∧ c.nodeKind = kind := by
  rw [firstFor] at h
  exact ⟨List.mem_of_find?_eq_some h, by simpa using List.find?_some h⟩

theorem firstFor_eq_some_iff {cs : List Converter} (hnodup : (cs.map Converter.nodeKind).Nodup)
    {kind : String} {c : Converter} : firstFor cs kind = some c ↔ c ∈ cs ∧ c.nodeKind = kind := by
  refine ⟨of_firstFor, ?_⟩
  rintro ⟨hc, rfl⟩
  cases hfirst : firstFor cs c.nodeKind with
  | none => exact absurd (List.mem_map_of_mem hc) (firstFor_eq_none_iff.1 hfirst)
  | some first =>
    obtain ⟨hmem, hkind⟩ := of_firstFor hfirst
    rw [List.inj_on_of_nodup_map hnodup hmem hc hkind]

theorem firstFor_perm {cs others : List Converter} (hnodup : (cs.map Converter.nodeKind).Nodup)
    (hperm : others.Perm cs) (kind : String) : firstFor others kind = firstFor cs kind := by
  have hothers := (hperm.map Converter.nodeKind).nodup_iff.2 hnodup
  refine Option.ext fun c => ?_
  rw [firstFor_eq_some_iff hothers, firstFor_eq_some_iff hnodup, hperm.mem_iff]

theorem ofConverters_of_nodup {cs : List Converter} (h : (cs.map Converter.nodeKind).Nodup) :
    ofConverters cs = .ok (calls cs).2 := by
  induction cs using List.reverseRecOn with
  | nil => rfl
  | append_singleton cs c ih =>
    obtain ⟨hcs, hnone⟩ := nodup_append_iff.1 h
    have hregister := (holdsFirst_calls cs).register_of_none hnone
    rw [ofConverters, List.foldlM_append, ← ofConverters, ih hcs, calls_append, registerIn_run_ok hregister]
    show List.foldlM register (calls cs).2 [c] = _
    rw [List.foldlM_cons, hregister]
    rfl

/-- The first converter whose kind is taken ends the building of a registry. -/
theorem ofConverters_of_repeated {before after : List Converter} {c first : Converter}
    (hnodup : (before.map Converter.nodeKind).Nodup) (hfirst : firstFor before c.nodeKind = some first) :
    ofConverters (before ++ c :: after) = .error (.duplicateConverter c.nodeKind first.name c.name) := by
  rw [ofConverters, List.foldlM_append, ← ofConverters, ofConverters_of_nodup hnodup]
  show List.foldlM register (calls before).2 (c :: after) = _
  rw [List.foldlM_cons, (holdsFirst_calls before).register_of_some hfirst]
  rfl

theorem exists_repeated {cs : List Converter} (h : ¬ (cs.map Converter.nodeKind).Nodup) :
    ∃ before c after first, cs = before ++ c :: after ∧ (before.map Converter.nodeKind).Nodup ∧
      firstFor before c.nodeKind = some first := by
  induction cs using List.reverseRecOn with
  | nil => exact absurd List.nodup_nil h
  | append_singleton cs c ih =>
    by_cases hcs : (cs.map Converter.nodeKind).Nodup
    · cases hfirst : firstFor cs c.nodeKind with
      | none => exact absurd (nodup_append_iff.2 ⟨hcs, hfirst⟩) h
      | some first => exact ⟨cs, c, [], first, rfl, hcs, hfirst⟩
    · obtain ⟨before, d, after, first, rfl, hbefore, hfirst⟩ := ih hcs
      exact ⟨before, d, after ++ [c], first, by rw [List.append_assoc, List.cons_append], hbefore, hfirst⟩

theorem ofConverters_eq_ok_iff (cs : List Converter) (built : Registry) :
    ofConverters cs = .ok built ↔ (cs.map Converter.nodeKind).Nodup ∧ built = (calls cs).2 := by
  constructor
  · intro h
    by_cases hnodup : (cs.map Converter.nodeKind).Nodup
    · rw [ofConverters_of_nodup hnodup] at h
      exact ⟨hnodup, (Except.ok.inj h).symm⟩
    · obtain ⟨before, c, after, first, rfl, hbefore, hfirst⟩ := exists_repeated hnodup
      rw [ofConverters_of_repeated hbefore hfirst] at h
      cases h
  · rintro ⟨hnodup, rfl⟩
    exact ofConverters_of_nodup hnodup

theorem ofConverters_eq_error_iff (cs : List Converter) (e : RegistryError) :
    ofConverters cs = .error e ↔ ∃ before c after first, cs = before ++ c :: after ∧
      (before.map Converter.nodeKind).Nodup ∧ firstFor before c.nodeKind = some first ∧
      e = .duplicateConverter c.nodeKind first.name c.name := by
  constructor
  · intro h
    by_cases hnodup : (cs.map Converter.nodeKind).Nodup
    · rw [ofConverters_of_nodup hnodup] at h
      cases h
    · obtain ⟨before, c, after, first, rfl, hbefore, hfirst⟩ := exists_repeated hnodup
      rw [ofConverters_of_repeated hbefore hfirst] at h
      exact ⟨before, c, after, first, rfl, hbefore, hfirst, (Except.error.inj h).symm⟩
  · rintro ⟨before, c, after, first, rfl, hbefore, hfirst, rfl⟩
    exact ofConverters_of_repeated hbefore hfirst

end Registry

theorem Conversion.convertDocument_of_same_first {r other : Registry} {cs others : List Converter}
    (hr : r.HoldsFirst cs) (hother : other.HoldsFirst others)
    (h : ∀ kind, Registry.firstFor others kind = Registry.firstFor cs kind) (config : Config) (source : Node) :
    (⟨other, config⟩ : Conversion).convertDocument source =
      (⟨r, config⟩ : Conversion).convertDocument source := by
  have hrule (kind : String) :
      (⟨other, config⟩ : Conversion).ruleFor kind = (⟨r, config⟩ : Conversion).ruleFor kind := by
    unfold ruleFor
    rw [hother kind, hr kind, h kind]
  apply convertDocument_congr
  · rfl
  · intro n _ convert
    rw [hrule]

namespace Registry

/-- Calls of `register` on a new registry keep, for each kind, the first converter for it, and refuse the others
in its favour. A list of converters makes a registry exactly when their kinds are different, and then in every
order the same conversion; otherwise it fails at the first converter whose kind is taken. -/
theorem register_keeps_first (cs : List Converter) :
    let answers := (calls cs).1
    let r := (calls cs).2
    (∀ kind, r.get? kind = (firstFor cs kind).map Converter.toNamedRule) ∧
    (answers.length = cs.length ∧ ∀ before c after, cs = before ++ c :: after →
      answers[before.length]? = some (answerAfter before c) ∧
      ((answerAfter before c).isOk = false → (calls (before ++ [c])).2 = (calls before).2)) ∧
    r.size = answers.countP Except.isOk ∧
    (r.isEmpty = true ↔ ∀ a ∈ answers, a.isOk = false) ∧
    (r.kinds.Pairwise (· < ·) ∧ ∀ kind, kind ∈ r.kinds ↔ (r.get? kind).isSome = true) ∧
    (∀ built, ofConverters cs = .ok built ↔ (cs.map Converter.nodeKind).Nodup ∧ built = r) ∧
    (∀ e, ofConverters cs = .error e ↔ ∃ before c after first, cs = before ++ c :: after ∧
      (before.map Converter.nodeKind).Nodup ∧ firstFor before c.nodeKind = some first ∧
      e = .duplicateConverter c.nodeKind first.name c.name) ∧
    ((cs.map Converter.nodeKind).Nodup → ∀ others : List Converter, others.Perm cs →
      ∃ built, ofConverters others = .ok built ∧ ∀ config source,
        (⟨built, config⟩ : Conversion).convertDocument source =
          (⟨r, config⟩ : Conversion).convertDocument source) := by
  intro answers r
  refine ⟨holdsFirst_calls cs, ⟨length_answers cs, ?_⟩, size_calls cs, ?_,
    ⟨r.byKind.pairwise_names, r.byKind.mem_names_iff⟩, ofConverters_eq_ok_iff cs, ofConverters_eq_error_iff cs, ?_⟩
  · rintro before c after rfl
    exact ⟨getElem?_answers before c after, calls_of_refused⟩
  · rw [isEmpty_iff, size_calls, List.countP_eq_zero]
    simp only [Bool.not_eq_true]
    exact Iff.rfl
  · intro hnodup others hperm
    have hothers := (hperm.map Converter.nodeKind).nodup_iff.2 hnodup
    exact ⟨(calls others).2, ofConverters_of_nodup hothers, Conversion.convertDocument_of_same_first
      (holdsFirst_calls cs) (holdsFirst_calls others) (firstFor_perm hnodup hperm)⟩

/-- The second converter for over-expressions is refused in favour of the first. -/
example : (calls [Converter.aggregateOver, Converter.plainOver]).1 =
    [.ok (), .error (.duplicateConverter "over-expression" "aggregate-over-expression" "over-expression")] := rfl

end Registry
end DialectConversion
