import DialectConversion.Proofs.Json.Trees
import DialectConversion.Report

/-! Reports as JSON text. Both layouts of a report are read as one list with an object for every converted
input, and what these objects hold is read as the trees and findings that were reported. -/
namespace DialectConversion
set_option autoImplicit false
open Json Json.Reader

/-! ## Values of any type -/

namespace Json.Value

/-- The reader of values reads a value as itself where it nests no more deeply than there is room, and the
value may be an element of a list. -/
def Readable (v : Value) : Prop := Leads v.written ∧ ∀ room, (Reader.value room).ReadsWithin room v v

theorem value_eq_valueWith (room : Nat) :
    ∃ inner, Reader.value room = valueWith room inner ∧ (0 < room → inner = Reader.value (room - 1)) := by
  cases room with
  | zero => exact ⟨_, rfl, nofun⟩
  | succ room => exact ⟨_, rfl, fun _ => rfl⟩

theorem readable_string (s : String) : (string s).Readable := by
  refine ⟨leads_string s, fun room => ?_⟩
  obtain ⟨inner, hvalue, _⟩ := value_eq_valueWith room
  have htext := Reads.map (text_readsWithin room s) Value.string
  rw [Option.map_if] at htext
  rw [hvalue]
  exact reads_peek rfl (startsWith_quoted s) htext

theorem readable_array {elements : List Value} (h : ∀ v ∈ elements, v.Readable) :
    (array elements).Readable := by
  refine ⟨leads_array elements, fun room => ?_⟩
  obtain ⟨inner, hvalue, hinner⟩ := value_eq_valueWith room
  have helements : (listOf room inner).ReadsWithin room (.array (elements.map id)) (elements.map id) :=
    listOf_readsWithin fun hroom v hv => ⟨(h v hv).1, hinner hroom ▸ (h v hv).2 (room - 1)⟩
  rw [List.map_id] at helements
  have hlist := Reads.map helements Value.array
  rw [Option.map_if] at hlist
  rw [hvalue]
  exact reads_peek rfl (startsWith_enclosed _ _ _) hlist

theorem readable_object {members : List (String × Value)} (h : ∀ m ∈ members, m.2.Readable) :
    (object members).Readable := by
  refine ⟨leads_object members, fun room => ?_⟩
  obtain ⟨inner, hvalue, hinner⟩ := value_eq_valueWith room
  have hmembers : (mapOf room inner).ReadsWithin room (.object (members.map fun m => (m.1, m.2)))
      (members.map fun m => (m.1, m.2)) :=
    mapOf_readsWithin fun hroom m hm => hinner hroom ▸ (h m hm).2 (room - 1)
  rw [List.map_id'] at hmembers
  have hmap := Reads.map hmembers Value.object
  rw [Option.map_if] at hmap
  rw [hvalue]
  exact reads_peek rfl (startsWith_enclosed _ _ _) hmap

end Json.Value

theorem Json.readable_of_mem_memberUnlessEmpty {γ : Type} {name : String} {content : List γ} {v : Value}
    (h : v.Readable) : ∀ m ∈ memberUnlessEmpty name content v, m.2.Readable := by
  unfold memberUnlessEmpty
  split
  · exact List.forall_mem_nil _
  · exact List.forall_mem_singleton.2 h

theorem Node.readable_toJson (n : Node) : n.toJson.Readable := by
  induction n with
  | node k a cs ih =>
    have hattributes : (Value.object (a.entries.map fun e => (e.1, Value.string e.2))).Readable :=
      Value.readable_object (List.forall_mem_map.2 fun e _ => Value.readable_string e.2)
    have hchildren : (Value.array (listToJson cs)).Readable := by
      rw [listToJson_eq_map]
      exact Value.readable_array (List.forall_mem_map.2 ih)
    rw [toJson]
    refine Value.readable_object (List.forall_mem_cons.2 ⟨Value.readable_string k, ?_⟩)
    exact List.forall_mem_append.2 ⟨readable_of_mem_memberUnlessEmpty hattributes,
      readable_of_mem_memberUnlessEmpty hchildren⟩

/-! ## Findings -/

theorem Severity.named_reads (s : Severity) : named.Reads {(quoted s.word).toList} (some s) := by
  rintro ws hws _ rfl rest
  rw [toList_quoted_append]
  refine .after (peek?_eq hws rfl _) (.after rfl (.after (stringBody_quoted s.word rest) ?_))
  simp only [ofWord?_word]
  exact .pure s rest

theorem Severity.reader_readsWithin (s : Severity) (room : Nat) :
    (reader room).ReadsWithin room (.string s.word) s := by
  rw [ReadsWithin, if_pos (show (Value.string s.word).nesting ≤ room from Nat.zero_le room)]
  exact reads_peek rfl (startsWith_quoted s.word) s.named_reads

namespace Diagnostic

theorem takesMembers_toJson (d : Diagnostic) : ∃ members t,
    d.toJson = .object members ∧ TakesMembers readMember (nestingLimit - 1) {} members t ∧
      ofFields t = pure d := by
  obtain ⟨severity, code, message, kind?⟩ := d
  have hseverity : TakesMembers readMember (nestingLimit - 1) {} [("severity", .string severity.word)]
      ⟨some severity, none, none, none⟩ :=
    .once (fun s? => (⟨s?, none, none, none⟩ : Fields)) rfl (severity.reader_readsWithin _)
  have hcode : TakesMembers readMember (nestingLimit - 1) ⟨some severity, none, none, none⟩
      [("code", .string code)] ⟨some severity, some code, none, none⟩ :=
    .once (fun c? => (⟨some severity, c?, none, none⟩ : Fields)) rfl (text_readsWithin _ code)
  have hmessage : TakesMembers readMember (nestingLimit - 1) ⟨some severity, some code, none, none⟩
      [("message", .string message)] ⟨some severity, some code, some message, none⟩ :=
    .once (fun m? => (⟨some severity, some code, m?, none⟩ : Fields)) rfl (text_readsWithin _ message)
  have hrequired := hseverity.append (hcode.append hmessage)
  cases kind? with
  | none => exact ⟨_, _, rfl, hrequired.append (.nil _), rfl⟩
  | some kind =>
    have hkind : TakesMembers readMember (nestingLimit - 1) ⟨some severity, some code, some message, none⟩
        [("nodeKind", .string kind)] ⟨some severity, some code, some message, some (some kind)⟩ :=
      .once (fun k? => (⟨some severity, some code, some message, k?⟩ : Fields)) rfl
        (textOrNull_readsWithin _ kind)
    exact ⟨_, _, rfl, hrequired.append hkind, rfl⟩

theorem reader_readsWithin (d : Diagnostic) : reader.ReadsWithin nestingLimit d.toJson d := by
  obtain ⟨members, t, htoJson, htakes, ht⟩ := takesMembers_toJson d
  rw [htoJson]
  exact htakes.readsWithin_record ht _ _

theorem nesting_toJson (d : Diagnostic) : d.toJson.nesting = 1 := by
  obtain ⟨severity, code, message, kind?⟩ := d
  cases kind? <;> rfl

theorem ofJson_compact (d : Diagnostic) : ofJson d.toJson.compact = .ok d := by
  have hreads := d.reader_readsWithin
  rw [ReadsWithin, if_pos (d.nesting_toJson ▸ by decide)] at hreads
  exact decode_eq_ok hreads d.toJson.compact_mem_written

theorem readable_toJson (d : Diagnostic) : d.toJson.Readable := by
  refine Value.readable_object (List.forall_mem_append.2 ⟨?_, ?_⟩)
  · simp [Value.readable_string]
  · cases d.nodeKind? <;> simp [Value.readable_string]

end Diagnostic

/-! ## Converted inputs -/

namespace Report

theorem readable_inputJson (i : ConvertedInput) : (inputJson i).Readable := by
  have hdiagnostics : (Value.array (i.document.diagnostics.map Diagnostic.toJson)).Readable :=
    Value.readable_array (List.forall_mem_map.2 fun d _ => d.readable_toJson)
  exact Value.readable_object (List.forall_mem_cons.2 ⟨Value.readable_string i.name,
    List.forall_mem_cons.2 ⟨i.document.root.readable_toJson, List.forall_mem_singleton.2 hdiagnostics⟩⟩)

/-- An object stands for a converted input: it has the name of the input, what it holds as the root is read
as the converted tree, and what it holds as findings is read as the findings in order. -/
structure StandsFor (object : Value) (i : ConvertedInput) : Prop where
  name : object.member? "name" = some (.string i.name)
  root : ∃ v, object.member? "root" = some v ∧ Node.ofJson v.compact = .ok i.document.root
  diagnostics : ∃ vs, object.member? "diagnostics" = some (.array vs) ∧
    vs.map (fun v => Diagnostic.ofJson v.compact) = i.document.diagnostics.map .ok

theorem inputJson_standsFor {i : ConvertedInput} (h : (inputJson i).nesting ≤ nestingLimit) :
    StandsFor (inputJson i) i where
  name := rfl
  root := by
    have hroot : i.document.root.toJson.nesting ≤ nestingLimit - 1 :=
      ((Value.nesting_object_le_iff _ _).1 h).2 ("root", _) (by simp)
    exact ⟨_, rfl, Node.ofJson_eq_ok (hroot.trans (Nat.sub_le _ _)) (Value.compact_mem_written _)⟩
  diagnostics := by
    refine ⟨_, rfl, ?_⟩
    rw [List.map_map]
    exact List.map_congr_left fun d _ => d.ofJson_compact

/-- Both layouts of a report whose list nests no more deeply than a reader allows are read as one and the same
list of objects, which stand for the converted inputs in order. -/
theorem ofText_json {inputs : List ConvertedInput}
    (h : (Value.array (inputs.map inputJson)).nesting ≤ 127) :
    ∃ objects, (∀ compact, Value.ofText (json compact inputs) = .ok (.array objects)) ∧
      List.Forall₂ StandsFor objects inputs := by
  refine ⟨inputs.map inputJson, fun compact => ?_, ?_⟩
  · have hreadable : (Value.array (inputs.map inputJson)).Readable :=
      Value.readable_array (List.forall_mem_map.2 fun i _ => readable_inputJson i)
    have hfits : (Value.array (inputs.map inputJson)).nesting ≤ nestingLimit := h
    have hreads := hreadable.2 nestingLimit
    rw [ReadsWithin, if_pos hfits] at hreads
    refine decode_eq_ok hreads ?_
    cases compact with
    | true => exact Value.compact_mem_written _
    | false => exact Value.indented_mem_written 0 _
  · rw [List.forall₂_map_left_iff, List.forall₂_same]
    intro i hi
    have hnesting := ((Value.nesting_array_le_iff _ _).1 h).2 _ (List.mem_map_of_mem hi)
    exact inputJson_standsFor (hnesting.trans (Nat.sub_le _ _))

/-- An input whose name is to be escaped, with an empty tree and a finding without a node kind. -/
theorem ofText_json_singleton :
    (Value.array ([(⟨"a\n\"b\"", ⟨.leaf "k", [⟨.info, "c", "m", none⟩]⟩⟩ : ConvertedInput)].map
        inputJson)).nesting ≤ 127 ∧
      ∃ objects,
        (∀ compact, Value.ofText (json compact [⟨"a\n\"b\"", ⟨.leaf "k", [⟨.info, "c", "m", none⟩]⟩⟩]) =
          .ok (.array objects)) ∧
        List.Forall₂ StandsFor objects [⟨"a\n\"b\"", ⟨.leaf "k", [⟨.info, "c", "m", none⟩]⟩⟩] :=
  ⟨by decide, ofText_json (by decide)⟩

end Report

end DialectConversion
