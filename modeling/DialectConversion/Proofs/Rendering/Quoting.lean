import DialectConversion.Proofs.Rendering.Names
import DialectConversion.Proofs.Text.Joined

/-! Rendered names are unambiguous. A part in brackets ends at its own closing bracket, whatever its text and
whatever follows it, so no text breaks out of its quotes; and of two names that are rendered alike the parts
are the same, quoted or not. -/
namespace DialectConversion
set_option autoImplicit false
open Render
open Text (joined joined_cons trailed doubled append_inj_of_not_mem map_eq_of_trailed_eq)

/-! ## Parts in brackets -/

namespace Name

/-- What is between brackets and what follows it, read from behind the opening bracket: two closing brackets
stand for one, and one alone ends it. -/
def bracketBody? : List Char → Option (List Char × List Char)
  | [] => none
  | [c] => if c = ']' then some ([], []) else none
  | c :: d :: rest =>
    if c = ']' then
      if d = ']' then (bracketBody? rest).map fun read => (']' :: read.1, read.2) else some ([], d :: rest)
    else (bracketBody? (d :: rest)).map fun read => (c :: read.1, read.2)

/-- The text of a part in brackets at the beginning of the characters, and what follows it. -/
def bracketedPart? : List Char → Option (String × List Char)
  | [] => none
  | c :: rest =>
    if c = '[' then (bracketBody? rest).map fun read => (String.ofList read.1, read.2) else none

theorem bracketBody?_cons_of_ne {c : Char} (h : c ≠ ']') (cs : List Char) :
    bracketBody? (c :: cs) = (bracketBody? cs).map fun read => (c :: read.1, read.2) := by
  cases cs with
  | nil => exact if_neg h
  | cons d rest => rw [bracketBody?, if_neg h]

theorem bracketBody?_doubled (text : List Char) {rest : List Char} (h : rest.head? ≠ some ']') :
    bracketBody? (doubled ']' text ++ ']' :: rest) = some (text, rest) := by
  induction text with
  | nil =>
    cases rest with
    | nil => rfl
    | cons d rest =>
      have hd : d ≠ ']' := fun hd => h (congrArg some hd)
      rw [doubled, List.nil_append, bracketBody?, if_pos rfl, if_neg hd]
  | cons c text ih =>
    by_cases hc : c = ']'
    · subst hc
      rw [doubled, if_pos rfl, List.cons_append, List.cons_append, bracketBody?, if_pos rfl, if_pos rfl, ih]
      rfl
    · rw [doubled, if_neg hc, List.cons_append, bracketBody?_cons_of_ne hc, ih]
      rfl

theorem bracketedPart?_bracketed (text : String) {rest : List Char} (h : rest.head? ≠ some ']') :
    bracketedPart? ((bracketed text).toList ++ rest) = some (text, rest) := by
  rw [toList_bracketed, List.cons_append, List.append_assoc, List.singleton_append, bracketedPart?, if_pos rfl,
    bracketBody?_doubled _ h, Option.map_some, String.ofList_toList]

/-- An unquoted text that can be told from a part in brackets and from the part behind it. -/
structure IsPlain (text : String) : Prop where
  nonempty : text ≠ ""
  dotless : '.' ∉ text.toList
  unbracketed : text.toList.head? ≠ some '['

end Name
open Name

/-! ## Parts of rendered names -/

namespace Identifier

theorem targetText_ne {i : Identifier} (hi : i.quoted = false → IsPlain i.text) : i.targetText.toList ≠ [] := by
  obtain ⟨text, quoted⟩ := i
  cases quoted with
  | false => exact fun h => (hi rfl).nonempty (String.toList_eq_nil_iff.1 h)
  | true =>
    show (bracketed text).toList ≠ []
    rw [toList_bracketed]
    exact List.cons_ne_nil _ _

theorem bracketed_append_ne {text other : String} (h : IsPlain text) (s t : List Char) :
    text.toList ++ s ≠ (bracketed other).toList ++ t := by
  intro heq
  cases htext : text.toList with
  | nil => exact h.nonempty (String.toList_eq_nil_iff.1 htext)
  | cons c rest =>
    rw [htext, toList_bracketed, List.cons_append, List.cons_append] at heq
    exact h.unbracketed (by rw [htext, (List.cons.inj heq).1, List.head?_cons])

/-- Where a dot or nothing follows, the first part of a rendered name is determined. -/
theorem targetText_append_inj {i j : Identifier} (hi : i.quoted = false → IsPlain i.text)
    (hj : j.quoted = false → IsPlain j.text) {s t : List Char} (hs : ∀ c ∈ s.head?, c = '.')
    (ht : ∀ c ∈ t.head?, c = '.') (h : i.targetText.toList ++ s = j.targetText.toList ++ t) :
    i = j ∧ s = t := by
  obtain ⟨text, quoted⟩ := i
  obtain ⟨other, quoted'⟩ := j
  have hbehind {rest : List Char} (hrest : ∀ c ∈ rest.head?, c = '.') : rest.head? ≠ some ']' :=
    fun hbracket => absurd (hrest ']' hbracket) (by decide)
  cases quoted with
  | false =>
    cases quoted' with
    | false =>
      obtain ⟨htext, hrest⟩ := append_inj_of_not_mem (hi rfl).dotless (hj rfl).dotless hs ht h
      exact ⟨congrArg (Identifier.mk · false) (String.toList_injective htext), hrest⟩
    | true => exact absurd h (bracketed_append_ne (hi rfl) s t)
  | true =>
    cases quoted' with
    | false => exact absurd h.symm (bracketed_append_ne (hj rfl) t s)
    | true =>
      -- the texts may hold dots and brackets: where each ends is found by reading it
      have hread := congrArg bracketedPart? h
      change bracketedPart? ((bracketed text).toList ++ s) = bracketedPart? ((bracketed other).toList ++ t) at hread
      rw [bracketedPart?_bracketed text (hbehind hs), bracketedPart?_bracketed other (hbehind ht)] at hread
      obtain ⟨rfl, rfl⟩ := Prod.mk.inj (Option.some.inj hread)
      exact ⟨rfl, rfl⟩

theorem targetTexts_inj {ps qs : List Identifier} (hps : ∀ i ∈ ps, i.quoted = false → IsPlain i.text)
    (hqs : ∀ i ∈ qs, i.quoted = false → IsPlain i.text)
    (h : joined "." (ps.map targetText) = joined "." (qs.map targetText)) : ps = qs := by
  have hnonempty {j : Identifier} {rest : List Identifier} (hj : j.quoted = false → IsPlain j.text) :
      joined "." ((j :: rest).map targetText) ≠ "" := by
    intro hempty
    have hchars := congrArg String.toList hempty
    rw [List.map_cons, joined_cons, String.toList_append, String.toList_empty, List.append_eq_nil_iff] at hchars
    exact targetText_ne hj hchars.1
  cases ps with
  | nil =>
    cases qs with
    | nil => rfl
    | cons j qs => exact absurd h.symm (hnonempty (hqs j List.mem_cons_self))
  | cons i ps =>
    cases qs with
    | nil => exact absurd h (hnonempty (hps i List.mem_cons_self))
    | cons j qs =>
      rw [List.map_cons, List.map_cons, joined_cons, joined_cons] at h
      have htrailed : trailed "." ((i :: ps).map targetText) = trailed "." ((j :: qs).map targetText) := by
        rw [List.map_cons, List.map_cons, trailed, trailed, String.append_assoc, String.append_assoc, h]
      have hparts := map_eq_of_trailed_eq (g := id) (by decide : ".".toList = ['.'])
        (fun x hx y hy _ _ hs ht => targetText_append_inj (hps x hx) (hqs y hy) hs ht) htrailed
      rwa [List.map_id, List.map_id] at hparts

end Identifier

/-! ## Nodes of names -/

namespace Node

/-- The part of a name that a node carries. -/
def namePart (n : Node) : Identifier :=
  ⟨n.attributeText AttributeName.text, n.attribute? AttributeName.quoted = some "true"⟩

/-- A node that carries one part of a name and nothing else. -/
def IsNamePart (n : Node) : Prop := n.kind = TargetKind.simpleIdentifier.label ∧ n.children = []

/-- A node of a name with the given parts. Other attributes of it and of its children do not matter. -/
structure IsName (n : Node) (parts : List Identifier) : Prop where
  kind_eq : n.kind = TargetKind.multipartIdentifier.label
  simple : ∀ c ∈ n.children, c.IsNamePart
  parts_eq : n.children.map namePart = parts

theorem IsNamePart.part_eq {n : Node} (h : n.IsNamePart) :
    n.part = ⟨TargetKind.simpleIdentifier.label, n.namePart.targetText⟩ := by
  obtain ⟨k, a, cs⟩ := n
  obtain ⟨hkind, hchildren⟩ := h
  obtain rfl : k = TargetKind.simpleIdentifier.label := hkind
  obtain rfl : cs = [] := hchildren
  rw [part_mk, TargetKind.ofLabel?_label]
  refine congrArg (Render.Part.mk _) (String.append_empty.trans ?_)
  change nameText a = if decide (a.get? AttributeName.quoted = some "true") = true then
    bracketed ((a.get? AttributeName.text).getD "") else (a.get? AttributeName.text).getD ""
  simp only [decide_eq_true_eq]
  rfl

theorem IsName.render_eq {n : Node} {parts : List Identifier} (h : n.IsName parts) :
    n.render = joined "." (parts.map Identifier.targetText) := by
  obtain ⟨k, a, cs⟩ := n
  obtain rfl : k = TargetKind.multipartIdentifier.label := h.kind_eq
  refine render_multipart_of_parts ?_
  rw [← h.parts_eq, List.map_map, List.map_map]
  exact List.map_congr_left fun c hc => (h.simple c hc).part_eq

end Node

theorem isName_multipartNode (parts : List Identifier) : (multipartNode parts).IsName parts where
  kind_eq := rfl
  simple := by
    refine List.forall_mem_map.2 fun i _ => ?_
    obtain ⟨text, quoted⟩ := i
    cases quoted <;> exact ⟨rfl, rfl⟩
  parts_eq := by
    have hpart (i : Identifier) : i.targetNode.namePart = i := by
      obtain ⟨text, quoted⟩ := i
      cases quoted <;> rfl
    show (parts.map Identifier.targetNode).map Node.namePart = parts
    rw [List.map_map]
    exact (List.map_congr_left fun i _ => hpart i).trans (List.map_id parts)

/-- Two names are rendered alike only if they have the same parts, when an unquoted part is not empty, has no dot
and does not begin with a bracket. A quoted part in brackets, whatever its text, is read as that text and no
further, when what follows it does not begin with a closing bracket. -/
theorem render_name_unambiguous :
    (∀ {m n : Node} {ps qs : List Identifier}, m.IsName ps → n.IsName qs →
      (∀ i ∈ ps, i.quoted = false → IsPlain i.text) → (∀ i ∈ qs, i.quoted = false → IsPlain i.text) →
      (m.render = n.render ↔ ps = qs)) ∧
    (∀ {c : Node}, c.IsNamePart → c.namePart.quoted = true → ∀ rest : List Char, rest.head? ≠ some ']' →
      bracketedPart? (c.render.toList ++ rest) = some (c.namePart.text, rest)) := by
  constructor
  · intro m n ps qs hm hn hps hqs
    rw [hm.render_eq, hn.render_eq]
    exact ⟨Identifier.targetTexts_inj hps hqs, fun h => by rw [h]⟩
  · intro c hc hquoted rest hrest
    have hrender : c.render = bracketed c.namePart.text := by
      have hpart := congrArg Render.Part.text hc.part_eq
      rwa [Identifier.targetText, if_pos hquoted] at hpart
    rw [hrender, bracketedPart?_bracketed _ hrest]

theorem render_name_unambiguous_brackets :
    let whole : List Identifier := [⟨"a].[b", true⟩, ⟨"c]", false⟩]
    let broken : List Identifier := [⟨"a", true⟩, ⟨"b", true⟩, ⟨"c]", false⟩]
    (multipartNode whole).render ≠ (multipartNode broken).render ∧
      bracketedPart? ((Identifier.targetNode ⟨"a].[b", true⟩).render.toList ++ ".c]".toList) =
        some ("a].[b", ".c]".toList) := by
  intro whole broken
  have hplain : IsPlain "c]" := ⟨by decide, by decide, by decide⟩
  have hwhole : ∀ i ∈ whole, i.quoted = false → IsPlain i.text := by
    simp [whole, hplain]
  have hbroken : ∀ i ∈ broken, i.quoted = false → IsPlain i.text := by
    simp [broken, hplain]
  constructor
  · intro h
    have heq := (render_name_unambiguous.1 (isName_multipartNode whole) (isName_multipartNode broken) hwhole
      hbroken).1 h
    exact absurd heq (by decide)
  · exact render_name_unambiguous.2 ⟨rfl, rfl⟩ rfl ".c]".toList (by decide)

end DialectConversion
