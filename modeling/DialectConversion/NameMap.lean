/-! Finite maps from names to values, kept as a list in strictly increasing order of the names
(code-point order). Two maps with the same content are the same list. -/
namespace DialectConversion
set_option autoImplicit false

/-- Named values in strictly increasing order of their names. -/
structure NameMap (α : Type) where
  entries : List (String × α) := []
  sorted : entries.Pairwise (fun a b => a.1 < b.1) := by exact List.Pairwise.nil
  deriving DecidableEq

namespace NameMap
variable {α : Type}

def isEmpty (m : NameMap α) : Bool := m.entries.isEmpty

theorem eq_of_entries_eq {m n : NameMap α} (h : m.entries = n.entries) : m = n := by
  obtain ⟨entries, sorted⟩ := m
  obtain rfl : entries = n.entries := h
  rfl

theorem eq_empty_of_isEmpty {m : NameMap α} (h : m.isEmpty) : m = {} :=
  eq_of_entries_eq (List.isEmpty_iff.1 h)

def names (m : NameMap α) : List String := m.entries.map Prod.fst

def get? (m : NameMap α) (name : String) : Option α := m.entries.lookup name

/-- Puts a value into sorted entries, replacing the value the name had. -/
def insertEntry (name : String) (value : α) : List (String × α) → List (String × α)
  | [] => [(name, value)]
  | (n, v) :: rest =>
    if name < n then (name, value) :: (n, v) :: rest
    else if name = n then (name, value) :: rest
    else (n, v) :: insertEntry name value rest

theorem mem_insertEntry {name : String} {value : α} {p : String × α} {entries : List (String × α)}
    (h : p ∈ insertEntry name value entries) : p = (name, value) ∨ p ∈ entries := by
  induction entries with
  | nil => simpa [insertEntry] using h
  | cons e rest ih =>
    obtain ⟨n, v⟩ := e
    by_cases hlt : name < n
    · simp only [insertEntry, if_pos hlt, List.mem_cons] at h
      simpa using h
    · by_cases heq : name = n
      · simp only [insertEntry, if_neg hlt, if_pos heq, List.mem_cons] at h
        exact h.imp id (List.mem_cons_of_mem _)
      · simp only [insertEntry, if_neg hlt, if_neg heq, List.mem_cons] at h
        rcases h with rfl | h
        · exact .inr (List.mem_cons_self ..)
        · exact (ih h).imp id (List.mem_cons_of_mem _)

theorem sorted_insertEntry (name : String) (value : α) {entries : List (String × α)}
    (h : entries.Pairwise (fun a b => a.1 < b.1)) :
    (insertEntry name value entries).Pairwise (fun a b => a.1 < b.1) := by
  induction entries with
  | nil => simp [insertEntry]
  | cons e rest ih =>
    obtain ⟨n, v⟩ := e
    rw [List.pairwise_cons] at h
    by_cases hlt : name < n
    · simp only [insertEntry, if_pos hlt]
      refine List.pairwise_cons.2 ⟨fun p hp => ?_, List.pairwise_cons.2 h⟩
      rcases List.mem_cons.1 hp with rfl | hp
      · exact hlt
      · exact String.lt_trans hlt (h.1 p hp)
    · by_cases heq : name = n
      · subst heq
        simp only [insertEntry, if_neg hlt, if_true]
        exact List.pairwise_cons.2 h
      · simp only [insertEntry, if_neg hlt, if_neg heq]
        refine List.pairwise_cons.2 ⟨fun p hp => ?_, ih h.2⟩
        rcases mem_insertEntry hp with rfl | hp
        · exact Std.lt_of_le_of_ne (Std.not_lt.1 hlt) (Ne.symm heq)
        · exact h.1 p hp

theorem lookup_cons_eq (name other : String) (value : α) (rest : List (String × α)) :
    ((name, value) :: rest).lookup other = if other = name then some value else rest.lookup other := by
  by_cases h : other = name
  · simp [h]
  · have hb : (other == name) = false := by simpa using h
    rw [List.lookup_cons, hb, if_neg h]

theorem lookup_insertEntry (name other : String) (value : α) (entries : List (String × α)) :
    (insertEntry name value entries).lookup other =
      if other = name then some value else entries.lookup other := by
  induction entries with
  | nil => simp [insertEntry, lookup_cons_eq]
  | cons e rest ih =>
    obtain ⟨n, v⟩ := e
    by_cases hlt : name < n
    · rw [insertEntry, if_pos hlt, lookup_cons_eq]
    · by_cases heq : name = n
      · subst heq
        rw [insertEntry, if_neg hlt, if_pos rfl, lookup_cons_eq, lookup_cons_eq]
        by_cases h : other = name <;> simp [h]
      · rw [insertEntry, if_neg hlt, if_neg heq, lookup_cons_eq, lookup_cons_eq, ih]
        by_cases h : other = n
        · subst h
          simp [Ne.symm heq]
        · simp [h]

theorem length_insertEntry {name : String} {entries : List (String × α)} (h : entries.lookup name = none)
    (value : α) : (insertEntry name value entries).length = entries.length + 1 := by
  induction entries with
  | nil => rfl
  | cons e rest ih =>
    obtain ⟨n, v⟩ := e
    rw [lookup_cons_eq] at h
    by_cases hlt : name < n
    · rw [insertEntry, if_pos hlt, List.length_cons]
    · by_cases heq : name = n
      · rw [if_pos heq] at h
        cases h
      · rw [if_neg heq] at h
        rw [insertEntry, if_neg hlt, if_neg heq, List.length_cons, ih h, List.length_cons]

/-- Gives a name a value, in place of the one it may have had. -/
def set (m : NameMap α) (name : String) (value : α) : NameMap α :=
  ⟨insertEntry name value m.entries, sorted_insertEntry name value m.sorted⟩

@[simp] theorem get?_empty (name : String) : ({} : NameMap α).get? name = none := rfl

theorem get?_set (m : NameMap α) (name other : String) (value : α) :
    (m.set name value).get? other = if other = name then some value else m.get? other :=
  lookup_insertEntry name other value m.entries

theorem mem_names_iff (m : NameMap α) (name : String) : name ∈ m.names ↔ (m.get? name).isSome = true := by
  rw [get?, List.lookup_isSome_iff, names, List.mem_map]
  constructor
  · rintro ⟨p, hp, rfl⟩
    exact ⟨p, hp, beq_self_eq_true p.1⟩
  · rintro ⟨p, hp, hname⟩
    exact ⟨p, hp, (eq_of_beq hname).symm⟩

theorem pairwise_names (m : NameMap α) : m.names.Pairwise (· < ·) := List.pairwise_map.2 m.sorted

/-- Sets the pairs in order, so that of equal names the last one counts. -/
def ofList (pairs : List (String × α)) : NameMap α :=
  pairs.foldl (fun m p => m.set p.1 p.2) {}

end NameMap
end DialectConversion
