import DialectConversion.Json.Decode
import DialectConversion.Proofs.Json.Records
import DialectConversion.Proofs.Tree.Shape

/-! Trees as JSON text. What a tree is written as is read as that tree, in either layout, as long as the
text opens no more containers inside each other than a reader allows; a text that opens more of them is
not accepted. -/
namespace DialectConversion
set_option autoImplicit false
open Json Json.Reader

/-! ## Attributes -/

namespace NameMap

variable {α : Type}

theorem insertEntry_last {name : String} {value : α} {entries : List (String × α)}
    (h : ∀ e ∈ entries, e.1 < name) : insertEntry name value entries = entries ++ [(name, value)] := by
  induction entries with
  | nil => rfl
  | cons e rest ih =>
    obtain ⟨n, v⟩ := e
    obtain ⟨hn, hrest⟩ := List.forall_mem_cons.1 h
    have hlt : ¬name < n := Std.not_lt.2 (Std.le_of_lt hn)
    have hne : name ≠ n := Ne.symm (Std.ne_of_lt hn)
    rw [insertEntry, if_neg hlt, if_neg hne, ih hrest, List.cons_append]

theorem entries_foldl_set (m : NameMap α) {pairs : List (String × α)}
    (h : (m.entries ++ pairs).Pairwise fun a b => a.1 < b.1) :
    (pairs.foldl (fun m p => m.set p.1 p.2) m).entries = m.entries ++ pairs := by
  induction pairs generalizing m with
  | nil => exact (List.append_nil _).symm
  | cons p pairs ih =>
    have hlast : (m.set p.1 p.2).entries = m.entries ++ [p] :=
      insertEntry_last fun e he => (List.pairwise_append.1 h).2.2 e he p List.mem_cons_self
    have hsplit : (m.set p.1 p.2).entries ++ pairs = m.entries ++ p :: pairs := by
      rw [hlast, List.append_assoc, List.singleton_append]
    rw [List.foldl_cons, ih (m.set p.1 p.2) (hsplit ▸ h), hsplit]

/-- A map is the map of its own entries. -/
theorem ofList_entries (m : NameMap α) : ofList m.entries = m := by
  have hentries : (ofList m.entries).entries = m.entries := entries_foldl_set {} m.sorted
  cases hm : ofList m.entries
  cases m
  simp_all

end NameMap

/-! ## Nodes -/

namespace Node

theorem attributes_readsWithin (room : Nat) (a : Attributes) : (textMap room).ReadsWithin room
    (.object (a.entries.map fun e => (e.1, Value.string e.2))) a.entries := by
  have hmap : (textMap room).ReadsWithin room (.object (a.entries.map fun e => (e.1, Value.string e.2)))
      (a.entries.map fun e => (e.1, e.2)) :=
    mapOf_readsWithin fun _ e _ => text_readsWithin _ e.2
  rwa [List.map_id'] at hmap

theorem listToJson_eq_map (cs : List Node) : listToJson cs = cs.map toJson := by
  induction cs with
  | nil => rfl
  | cons c rest ih => rw [listToJson, ih, List.map_cons]

theorem leads_toJson (n : Node) : Leads n.toJson.written := by
  cases n with
  | mk k a cs =>
    rw [toJson]
    exact leads_object _

theorem children_readsWithin {room : Nat} {child : Reader Node} {cs : List Node}
    (h : 0 < room → ∀ c ∈ cs, child.ReadsWithin (room - 1) c.toJson c) :
    (listOf room child).ReadsWithin room (.array (listToJson cs)) cs := by
  have hlist : (listOf room child).ReadsWithin room (.array (cs.map toJson)) (cs.map id) :=
    listOf_readsWithin fun hroom c hc => ⟨leads_toJson c, h hroom c hc⟩
  rwa [List.map_id, ← listToJson_eq_map] at hlist

/-- A node is read where its children are read with the room for two containers less. -/
theorem readWith_readsWithin {room : Nat} {child : Reader Node} {k : String} {a : Attributes}
    {cs : List Node} (h : 1 < room → ∀ c ∈ cs, child.ReadsWithin (room - 2) c.toJson c) :
    (readWith room child).ReadsWithin room (mk k a cs).toJson (mk k a cs) := by
  have hkind : TakesMembers (readMember room child) (room - 1) {} [("kind", .string k)]
      ⟨some k, none, none⟩ :=
    .once (fun k? => (⟨k?, none, none⟩ : Fields)) rfl (text_readsWithin _ k)
  have hattributes : TakesMembers (readMember room child) (room - 1) ⟨some k, none, none⟩
      (memberUnlessEmpty "attributes" a.entries (.object (a.entries.map fun e => (e.1, Value.string e.2))))
      ⟨some k, contentUnlessEmpty? a.entries, none⟩ := by
    refine .unlessEmpty (fun hempty => by rw [hempty]; rfl) fun hne => ?_
    rw [contentUnlessEmpty?_eq_some hne]
    exact .once (fun a? => (⟨some k, a?, none⟩ : Fields)) rfl (attributes_readsWithin _ a)
  have hchildren : TakesMembers (readMember room child) (room - 1)
      ⟨some k, contentUnlessEmpty? a.entries, none⟩
      (memberUnlessEmpty "children" cs (.array (listToJson cs)))
      ⟨some k, contentUnlessEmpty? a.entries, contentUnlessEmpty? cs⟩ := by
    refine .unlessEmpty (fun hempty => by rw [hempty]; rfl) fun hne => ?_
    rw [contentUnlessEmpty?_eq_some hne]
    exact .once (fun cs? => (⟨some k, contentUnlessEmpty? a.entries, cs?⟩ : Fields)) rfl
      (children_readsWithin fun hroom => h (Nat.lt_of_sub_pos hroom))
  have hfields : ofFields ⟨some k, contentUnlessEmpty? a.entries, contentUnlessEmpty? cs⟩ =
      pure (mk k a cs) := by
    simp only [ofFields, getD_contentUnlessEmpty?, NameMap.ofList_entries]
  rw [toJson]
  exact (hkind.append (hattributes.append hchildren)).readsWithin_record hfields _ _

theorem reader_readsWithin (n : Node) (room : Nat) : (reader room).ReadsWithin room n.toJson n := by
  induction n generalizing room with
  | node k a cs ih =>
    match room with
    | 0 => exact readWith_readsWithin nofun
    | 1 => exact readWith_readsWithin nofun
    | room + 2 => exact readWith_readsWithin fun _ c hc => ih c hc room

theorem ofJson_eq_ok {n : Node} (h : n.toJson.nesting ≤ nestingLimit) {text : String}
    (htext : text.toList ∈ n.toJson.written) : ofJson text = .ok n := by
  have hreads := n.reader_readsWithin nestingLimit
  rw [ReadsWithin, if_pos h] at hreads
  exact decode_eq_ok hreads htext

theorem ofJson_eq_error {n : Node} (h : ¬n.toJson.nesting ≤ nestingLimit) {text : String}
    (htext : text.toList ∈ n.toJson.written) :
    ∃ fault, ofJson text = .error fault ∧ fault.cause = .malformed .nestedTooDeeply := by
  have hreads := n.reader_readsWithin nestingLimit
  rw [ReadsWithin, if_neg h] at hreads
  exact decode_eq_error hreads htext

/-- The compact text of a tree is read as this tree where it nests no more deeply than a reader allows, and
breaks the grammar where it nests more deeply. -/
theorem ofJson_compact_toJson (n : Node) :
    if n.toJson.nesting ≤ 127 then ofJson n.toJson.compact = .ok n
    else ∃ fault, ofJson n.toJson.compact = .error fault ∧ fault.cause.category = .syntaxError := by
  have hwritten := n.toJson.compact_mem_written
  split
  next hnesting => exact ofJson_eq_ok hnesting hwritten
  next hnesting =>
    obtain ⟨fault, hfault, hcause⟩ := ofJson_eq_error hnesting hwritten
    exact ⟨fault, hfault, by rw [hcause]; rfl⟩

/-- Quotes, backslashes, line breaks and control characters in all places, and fields left out for being empty. -/
theorem ofJson_compact_toJson_escapes :
    let tree := (branch "k\"" [leaf "\n", (leaf "ü").withAttribute "b\\" "\x01"]).withAttribute "a" ""
    tree.toJson.compact =
        "\x7b\"kind\":\"k\\\"\",\"attributes\":\x7b\"a\":\"\"\x7d,\"children\":[\x7b\"kind\":\"\\n\"\x7d," ++
          "\x7b\"kind\":\"ü\",\"attributes\":\x7b\"b\\\\\":\"\\u0001\"\x7d\x7d]\x7d" ∧
      ofJson tree.toJson.compact = .ok tree := by
  intro tree
  have hnesting : tree.toJson.nesting ≤ 127 := by decide
  have hread := ofJson_compact_toJson tree
  rw [if_pos hnesting] at hread
  exact ⟨by decide, hread⟩

end Node

end DialectConversion
