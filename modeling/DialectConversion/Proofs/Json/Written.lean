import DialectConversion.Json.Reader
import Mathlib.Computability.Language

/-! The texts that stand for a JSON value. Between the tokens of such a text there may be any white space;
all else is settled by the value. Both layouts are among these texts, so that what is shown of all of them
does not depend on the layout. -/
namespace DialectConversion.Json
set_option autoImplicit false

/-! ## Items between brackets -/

/-- White space between tokens. -/
def blanks : Language Char := {ws | ∀ c ∈ ws, Reader.isBlank c = true}

/-- A token of one character. -/
def symbol (c : Char) : Language Char := {[c]}

/-- What follows an item: further items, each behind a comma, with white space around them. -/
def furtherItems : List (Language Char) → Language Char
  | [] => blanks
  | p :: ps => blanks * (symbol ',' * (blanks * (p * furtherItems ps)))

/-- Items with commas between them and white space around them. -/
def items : List (Language Char) → Language Char
  | [] => blanks
  | p :: ps => blanks * (p * furtherItems ps)

/-- Items between two brackets. -/
def enclosed (opening closing : Char) (ps : List (Language Char)) : Language Char :=
  symbol opening * (items ps * symbol closing)

/-- A colon and the value behind it. -/
def behindColon (p : Language Char) : Language Char := symbol ':' * (blanks * p)

/-- A member of an object. -/
def memberForms (name : String) (p : Language Char) : Language Char :=
  {(quoted name).toList} * (blanks * behindColon p)

theorem nil_mem_blanks : [] ∈ blanks := List.forall_mem_nil _

theorem mem_symbol_mul {c : Char} {p : Language Char} {w : List Char} :
    w ∈ symbol c * p ↔ ∃ rest ∈ p, w = c :: rest := by
  rw [Language.mem_mul]
  constructor
  · rintro ⟨_, rfl, rest, hrest, rfl⟩
    exact ⟨rest, hrest, rfl⟩
  · rintro ⟨rest, hrest, rfl⟩
    exact ⟨[c], rfl, rest, hrest, rfl⟩

theorem cons_mem_symbol_mul {c : Char} {p : Language Char} {rest : List Char} (h : rest ∈ p) :
    c :: rest ∈ symbol c * p :=
  mem_symbol_mul.2 ⟨rest, h, rfl⟩

theorem mem_blanks_mul {p : Language Char} {w : List Char} (h : w ∈ p) : w ∈ blanks * p :=
  Language.append_mem_mul nil_mem_blanks h

theorem mem_items_cons {p : Language Char} {ps : List (Language Char)} {w : List Char} :
    w ∈ items (p :: ps) ↔
      ∃ ws ∈ blanks, ∃ v ∈ p, ∃ more ∈ furtherItems ps, w = ws ++ (v ++ more) := by
  constructor
  · rintro ⟨ws, hws, _, ⟨v, hv, more, hmore, rfl⟩, rfl⟩
    exact ⟨ws, hws, v, hv, more, hmore, rfl⟩
  · rintro ⟨ws, hws, v, hv, more, hmore, rfl⟩
    exact Language.append_mem_mul hws (Language.append_mem_mul hv hmore)

theorem mem_furtherItems_cons {p : Language Char} {ps : List (Language Char)} {w : List Char} :
    w ∈ furtherItems (p :: ps) ↔ ∃ ws ∈ blanks, ∃ rest ∈ items (p :: ps), w = ws ++ ',' :: rest := by
  constructor
  · rintro ⟨ws, hws, _, hcomma, rfl⟩
    obtain ⟨rest, hrest, rfl⟩ := mem_symbol_mul.1 hcomma
    exact ⟨ws, hws, rest, hrest, rfl⟩
  · rintro ⟨ws, hws, rest, hrest, rfl⟩
    exact Language.append_mem_mul hws (cons_mem_symbol_mul hrest)

theorem comma_mem_furtherItems {ps : List (Language Char)} {rest : List Char} (hne : ps ≠ [])
    (h : rest ∈ items ps) : ',' :: rest ∈ furtherItems ps := by
  obtain ⟨p, ps, rfl⟩ := List.exists_cons_of_ne_nil hne
  exact mem_furtherItems_cons.2 ⟨[], nil_mem_blanks, rest, h, rfl⟩

theorem mem_enclosed {opening closing : Char} {ps : List (Language Char)} {w : List Char} :
    w ∈ enclosed opening closing ps ↔ ∃ inside ∈ items ps, w = opening :: (inside ++ [closing]) := by
  rw [enclosed, mem_symbol_mul]
  constructor
  · rintro ⟨_, ⟨inside, hinside, _, rfl, rfl⟩, rfl⟩
    exact ⟨inside, hinside, rfl⟩
  · rintro ⟨inside, hinside, rfl⟩
    exact ⟨_, Language.append_mem_mul hinside rfl, rfl⟩

namespace Value

/-- What holds of a value whenever it holds of all values inside it holds of every value. -/
@[elab_as_elim, induction_eliminator]
theorem induct {motive : Value → Prop} (null : motive null) (boolean : ∀ b, motive (boolean b))
    (number : ∀ literal, motive (number literal)) (string : ∀ s, motive (string s))
    (array : ∀ elements, (∀ v ∈ elements, motive v) → motive (array elements))
    (object : ∀ members : List (String × Value), (∀ m ∈ members, motive m.2) → motive (object members))
    (v : Value) : motive v := by
  refine @Value.rec motive (fun vs => ∀ v ∈ vs, motive v) (fun ms => ∀ m ∈ ms, motive m.2)
    (fun m => motive m.2) null boolean number string array object ?_ ?_ ?_ ?_ ?_ v
  · exact List.forall_mem_nil _
  · exact fun v rest hv hrest => List.forall_mem_cons.2 ⟨hv, hrest⟩
  · exact List.forall_mem_nil _
  · exact fun m rest hm hrest => List.forall_mem_cons.2 ⟨hm, hrest⟩
  · exact fun _ _ hv => hv

/-! ## Nesting -/

theorem nestingOfElements_le_iff (elements : List Value) (m : Nat) :
    nestingOfElements elements ≤ m ↔ ∀ v ∈ elements, v.nesting ≤ m := by
  induction elements with
  | nil => simp [nestingOfElements]
  | cons v rest ih => rw [nestingOfElements, Nat.max_le, ih, List.forall_mem_cons]

theorem nestingOfMembers_le_iff (members : List (String × Value)) (m : Nat) :
    nestingOfMembers members ≤ m ↔ ∀ e ∈ members, e.2.nesting ≤ m := by
  induction members with
  | nil => simp [nestingOfMembers]
  | cons e rest ih =>
    obtain ⟨name, v⟩ := e
    rw [nestingOfMembers, Nat.max_le, ih, List.forall_mem_cons]

/-- A list fits where there is room for itself and its elements fit into what is left. -/
theorem nesting_array_le_iff (elements : List Value) (room : Nat) :
    (array elements).nesting ≤ room ↔ 0 < room ∧ ∀ v ∈ elements, v.nesting ≤ room - 1 := by
  rw [nesting, ← nestingOfElements_le_iff]
  omega

theorem nesting_object_le_iff (members : List (String × Value)) (room : Nat) :
    (object members).nesting ≤ room ↔ 0 < room ∧ ∀ e ∈ members, e.2.nesting ≤ room - 1 := by
  rw [nesting, ← nestingOfMembers_le_iff]
  omega

/-! ## Written forms -/

mutual
/-- The texts that stand for a value. -/
def written : Value → Language Char
  | null => {"null".toList}
  | boolean b => {(if b then "true" else "false").toList}
  | number literal => {literal.toList}
  | string s => {(quoted s).toList}
  | array elements => enclosed '[' ']' (writtenElements elements)
  | object members => enclosed '\x7b' '\x7d' (writtenMembers members)

def writtenElements : List Value → List (Language Char)
  | [] => []
  | v :: rest => written v :: writtenElements rest

def writtenMembers : List (String × Value) → List (Language Char)
  | [] => []
  | (name, v) :: rest => memberForms name (written v) :: writtenMembers rest
end

theorem written_array (elements : List Value) :
    (array elements).written = enclosed '[' ']' (elements.map written) := by
  have hmap : writtenElements elements = elements.map written := by
    induction elements with
    | nil => rfl
    | cons v rest ih => rw [writtenElements, ih, List.map_cons]
  rw [written, hmap]

theorem written_object (members : List (String × Value)) :
    (object members).written =
      enclosed '\x7b' '\x7d' (members.map fun m => memberForms m.1 m.2.written) := by
  have hmap : writtenMembers members = members.map fun m => memberForms m.1 m.2.written := by
    induction members with
    | nil => rfl
    | cons m rest ih =>
      obtain ⟨name, v⟩ := m
      rw [writtenMembers, ih, List.map_cons]
  rw [written, hmap]

/-! ### Layouts

Each layout puts the same white space in front of every item between two brackets. -/

/-- The words with commas between them, each behind the same white space. -/
def spaced (front : List Char) : List (List Char) → List Char
  | [] => []
  | [w] => front ++ w
  | w :: x :: rest => front ++ (w ++ ',' :: spaced front (x :: rest))

theorem spaced_mem_items {α : Type} {front back : List Char} (hfront : front ∈ blanks)
    (hback : back ∈ blanks) {word : α → List Char} {form : α → Language Char} {xs : List α}
    (h : ∀ x ∈ xs, word x ∈ form x) : spaced front (xs.map word) ++ back ∈ items (xs.map form) := by
  induction xs with
  | nil => exact hback
  | cons x xs ih =>
    rw [List.forall_mem_cons] at h
    cases xs with
    | nil =>
      have hlast : front ++ (word x ++ back) ∈ items [form x] :=
        Language.append_mem_mul hfront (Language.append_mem_mul h.1 hback)
      rwa [← List.append_assoc] at hlast
    | cons y ys =>
      have hmore : ',' :: (spaced front ((y :: ys).map word) ++ back) ∈ furtherItems ((y :: ys).map form) :=
        comma_mem_furtherItems (List.cons_ne_nil _ _) (ih h.2)
      have hall : _ ∈ items ((x :: y :: ys).map form) :=
        Language.append_mem_mul hfront (Language.append_mem_mul h.1 hmore)
      simpa only [List.map_cons, spaced, List.append_assoc, List.cons_append] using hall

theorem member_mem_memberForms {name : String} {after w : List Char} {p : Language Char}
    (hafter : after ∈ blanks) (h : w ∈ p) :
    (quoted name).toList ++ ':' :: (after ++ w) ∈ memberForms name p :=
  Language.append_mem_mul rfl
    (mem_blanks_mul (cons_mem_symbol_mul (Language.append_mem_mul hafter h)))

theorem toList_compactElements (elements : List Value) :
    (compactElements elements).toList = spaced [] (elements.map fun v => v.compact.toList) := by
  induction elements with
  | nil => rfl
  | cons v rest ih =>
    cases rest with
    | nil => rfl
    | cons w rest =>
      rw [compactElements, String.toList_append, String.toList_append, ih]
      simp [spaced]

theorem toList_compactMembers (members : List (String × Value)) :
    (compactMembers members).toList =
      spaced [] (members.map fun m => (quoted m.1).toList ++ ':' :: ([] ++ m.2.compact.toList)) := by
  induction members with
  | nil => rfl
  | cons m rest ih =>
    obtain ⟨name, v⟩ := m
    cases rest with
    | nil =>
      rw [compactMembers, String.toList_append, String.toList_append]
      simp [spaced]
    | cons e rest =>
      rw [compactMembers, String.toList_append, ih]
      simp [spaced]

theorem toList_indentedElements (level : Nat) (elements : List Value) :
    (indentedElements level elements).toList =
      spaced (lineBreak level).toList (elements.map fun v => (v.indented level).toList) := by
  induction elements with
  | nil => rfl
  | cons v rest ih =>
    cases rest with
    | nil => exact String.toList_append
    | cons w rest =>
      rw [indentedElements, String.toList_append, ih]
      simp [spaced]

theorem toList_indentedMembers (level : Nat) (members : List (String × Value)) :
    (indentedMembers level members).toList =
      spaced (lineBreak level).toList
        (members.map fun m => (quoted m.1).toList ++ ':' :: ([' '] ++ (m.2.indented level).toList)) := by
  induction members with
  | nil => rfl
  | cons m rest ih =>
    obtain ⟨name, v⟩ := m
    cases rest with
    | nil =>
      rw [indentedMembers]
      simp [spaced]
    | cons e rest =>
      rw [indentedMembers, String.toList_append, ih]
      simp [spaced]

theorem lineBreak_mem_blanks (level : Nat) : (lineBreak level).toList ∈ blanks := by
  intro c hc
  simp only [lineBreak, String.toList_append, String.toList_ofList, List.mem_append] at hc
  rcases hc with hc | hc
  · obtain rfl := List.mem_singleton.1 hc
    rfl
  · rw [List.eq_of_mem_replicate hc]
    rfl

theorem compact_mem_written (v : Value) : v.compact.toList ∈ v.written := by
  induction v with
  | null => exact rfl
  | boolean b => exact rfl
  | number literal => exact rfl
  | string s => exact rfl
  | array elements ih =>
    rw [written_array, mem_enclosed]
    refine ⟨_, spaced_mem_items nil_mem_blanks nil_mem_blanks ih, ?_⟩
    rw [compact, String.toList_append, String.toList_append, toList_compactElements, List.append_nil]
    rfl
  | object members ih =>
    rw [written_object, mem_enclosed]
    refine ⟨_, spaced_mem_items nil_mem_blanks nil_mem_blanks fun m hm =>
      member_mem_memberForms nil_mem_blanks (ih m hm), ?_⟩
    rw [compact, String.toList_append, String.toList_append, toList_compactMembers, List.append_nil]
    rfl

theorem indented_mem_written (level : Nat) (v : Value) : (v.indented level).toList ∈ v.written := by
  induction v generalizing level with
  | null => exact rfl
  | boolean b => exact rfl
  | number literal => exact rfl
  | string s => exact rfl
  | array elements ih =>
    rw [written_array, mem_enclosed]
    cases elements with
    | nil => exact ⟨[], nil_mem_blanks, by rw [indented]; rfl⟩
    | cons v rest =>
      refine ⟨_, spaced_mem_items (lineBreak_mem_blanks (level + 1)) (lineBreak_mem_blanks level)
        fun w hw => ih w hw (level + 1), ?_⟩
      rw [indented, String.toList_append, String.toList_append, String.toList_append,
        toList_indentedElements]
      simp
  | object members ih =>
    rw [written_object, mem_enclosed]
    cases members with
    | nil => exact ⟨[], nil_mem_blanks, by rw [indented]; rfl⟩
    | cons m rest =>
      have hspace : [' '] ∈ blanks := List.forall_mem_singleton.2 rfl
      refine ⟨_, spaced_mem_items (lineBreak_mem_blanks (level + 1)) (lineBreak_mem_blanks level)
        fun e he => member_mem_memberForms hspace (ih e he (level + 1)), ?_⟩
      rw [indented, String.toList_append, String.toList_append, String.toList_append,
        toList_indentedMembers]
      simp

end Value
end DialectConversion.Json
