import DialectConversion.Proofs.Name.Losses
import DialectConversion.Proofs.Name.Written
import DialectConversion.Proofs.Rendering.Parts
import Mathlib

/-! Names of the target dialect, rendered and read as dotted names. Between brackets rendering doubles the
closing bracket, while a dotted name ends at the first one and keeps what is between the brackets as it is;
so the parts of a name come back where no quoted part has a closing bracket in it, and nowhere else. -/
namespace DialectConversion
set_option autoImplicit false
open Name Render
open Text (joined doubled undoubled trim trimmed isWhiteSpace)

/-! ## Nodes of names -/

namespace Identifier

/-- The node of a part of a name in the target dialect. -/
def targetNode (i : Identifier) : Node :=
  let plain := (Node.leaf TargetKind.simpleIdentifier.label).withAttribute AttributeName.text i.text
  if i.quoted then plain.withAttribute AttributeName.quoted "true" else plain

/-- A part of a name as the target dialect writes it. -/
def targetText (i : Identifier) : String := if i.quoted then bracketed i.text else i.text

theorem part_targetNode (i : Identifier) :
    i.targetNode.part = ⟨TargetKind.simpleIdentifier.label, i.targetText⟩ := by
  obtain ⟨text, quoted⟩ := i
  cases quoted with
  | false => exact congrArg (Render.Part.mk _) String.append_empty
  | true => exact congrArg (Render.Part.mk _) String.append_empty

end Identifier

/-- The node of a name in the target dialect. -/
def multipartNode (parts : List Identifier) : Node :=
  Node.branch TargetKind.multipartIdentifier.label (parts.map Identifier.targetNode)

/-- A multipart identifier whose children are all name parts shows their texts with dots between them. -/
theorem render_multipart_of_parts {attributes : Attributes} {children : List Node} {texts : List String}
    (h : children.map Node.part = texts.map (Render.Part.mk TargetKind.simpleIdentifier.label)) :
    (Node.mk TargetKind.multipartIdentifier.label attributes children).render = joined "." texts := by
  have hname : ∀ p ∈ children.map Node.part, isName p = true := by
    rw [h]
    exact List.forall_mem_map.2 fun _ _ => decide_eq_true rfl
  have hother : ∀ p ∈ children.map Node.part, ¬(!isName p) = true := by
    intro p hp
    rw [hname p hp]
    exact Bool.false_ne_true
  have htexts : (texts.map (Render.Part.mk TargetKind.simpleIdentifier.label)).map Render.Part.text = texts := by
    rw [List.map_map]
    exact List.map_id _
  rw [Node.render_mk, TargetKind.ofLabel?_label]
  change joinedParts "." (List.filter isName _) ++ adjacentParts (List.filter (fun p => !isName p) _) = _
  rw [List.filter_eq_self.2 hname, List.filter_eq_nil_iff.2 hother, h, joinedParts, htexts]
  exact String.append_empty

theorem render_multipartNode (parts : List Identifier) :
    (multipartNode parts).render = joined "." (parts.map Identifier.targetText) := by
  refine render_multipart_of_parts ?_
  rw [List.map_map, List.map_map]
  exact List.map_congr_left fun i _ => i.part_targetNode

/-! ## Parts that are segments -/

theorem Text.doubled_of_not_mem {mark : Char} {cs : List Char} (h : mark ∉ cs) : doubled mark cs = cs := by
  induction cs with
  | nil => rfl
  | cons c cs ih =>
    rw [List.mem_cons, not_or] at h
    rw [doubled, if_neg (Ne.symm h.1), ih h.2]

theorem toList_bracketed (text : String) :
    (bracketed text).toList = '[' :: (doubled ']' text.toList ++ [']']) := by
  simp only [bracketed, String.toList_append, String.toList_ofList, List.append_assoc]
  rfl

namespace Name

/-- A text that stands for itself as a part of a dotted name. -/
structure IsBare (text : String) : Prop where
  nonempty : text ≠ ""
  trimmed : trim text = text
  plain : ∀ c ∈ text.toList, c ≠ '.' ∧ c ≠ '"' ∧ c ≠ graveAccent ∧ c ≠ '['

/-- The text as a part in its written form. -/
def IsBare.written {text : String} (h : IsBare text) : WrittenPart :=
  .bare text h.nonempty h.trimmed h.plain

theorem IsBare.isSegment {text : String} (h : IsBare text) : IsSegment text.toList none where
  uncut := h.written.uncut_chars
  trimmed_eq := h.written.trimmed_chars
  ne_nil := h.written.chars_ne_nil

theorem IsBare.ofSegment_eq {text : String} (h : IsBare text) : Identifier.ofSegment text = ⟨text, false⟩ := by
  have hsegment := h.written.ofSegment_chars
  rwa [IsBare.written, WrittenPart.chars, String.ofList_toList] at hsegment

theorem toList_bracketed_of_not_mem {text : String} (h : ']' ∉ text.toList) :
    (bracketed text).toList = '[' :: (text.toList ++ [']']) := by
  rw [toList_bracketed, Text.doubled_of_not_mem h]

theorem isSegment_bracketed {text : String} (h : ']' ∉ text.toList) :
    IsSegment (bracketed text).toList none := by
  have hopen : Uncut none ['['] (some ']') := Uncut.outside (by decide)
  have hinside : Uncut (some ']') text.toList (some ']') :=
    Uncut.inside_of_forall fun c hc hbracket => h (hbracket ▸ hc)
  have hclose : Uncut (some ']') [']'] none := Uncut.inside ']' ']'
  have htrimmed : trimmed ('[' :: (text.toList ++ [']'])) = '[' :: (text.toList ++ [']']) := by
    simp [trimmed, isWhiteSpace]
  rw [toList_bracketed_of_not_mem h]
  exact ⟨hopen.append (hinside.append hclose), htrimmed, List.cons_ne_nil _ _⟩

theorem ofSegment_bracketed {text : String} (h : ']' ∉ text.toList) :
    Identifier.ofSegment (bracketed text) = ⟨text, true⟩ := by
  have hbody : quotedBody? (trimmed (bracketed text).toList) = some ('[', text.toList) := by
    have hclosing : closing? '[' = some ']' := by decide
    rw [(isSegment_bracketed h).trimmed_eq, toList_bracketed_of_not_mem h]
    simp [quotedBody?, hclosing]
  simp only [Identifier.ofSegment, isQuoted, unquote, unquotedChars, hbody, Option.isSome_some, if_true,
    String.ofList_toList]

end Name

/-! ## Closing brackets -/

/-- How many closing brackets a text has. -/
def closings (cs : List Char) : Nat := cs.count ']'

theorem closings_append (a b : List Char) : closings (a ++ b) = closings a + closings b := List.count_append

theorem closings_cons_of_ne {c : Char} (h : c ≠ ']') (cs : List Char) : closings (c :: cs) = closings cs :=
  List.count_cons_of_ne h

theorem closings_doubled (cs : List Char) : closings (doubled ']' cs) = 2 * closings cs := by
  unfold closings
  induction cs with
  | nil => rfl
  | cons c cs ih =>
    rw [doubled]
    by_cases h : c = ']'
    · rw [if_pos h, h, List.count_cons_self, List.count_cons_self, List.count_cons_self, ih]
      omega
    · rw [if_neg h, List.count_cons_of_ne h, List.count_cons_of_ne h, ih]

theorem closings_undoubled {mark : Char} (h : mark ≠ ']') (cs : List Char) :
    closings (undoubled mark cs) = closings cs := by
  unfold closings
  fun_induction undoubled mark cs with
  | case1 => rfl
  | case2 c => rfl
  | case3 c d rest hpair ih =>
    obtain ⟨rfl, rfl⟩ := hpair
    rw [List.count_cons_of_ne h, List.count_cons_of_ne h, List.count_cons_of_ne h, ih]
  | case4 c d rest hpair ih => rw [List.count_cons, List.count_cons, ih]

theorem closings_trimmed (cs : List Char) : closings (trimmed cs) = closings cs := by
  have hblank {blanks : List Char} (h : ∀ c ∈ blanks, isWhiteSpace c = true) : closings blanks = 0 := by
    refine List.count_eq_zero.2 fun hmem => ?_
    have hbracket : isWhiteSpace ']' = false := by decide
    rw [h ']' hmem] at hbracket
    exact absurd hbracket nofun
  obtain ⟨before, after, hbefore, hafter, hcs⟩ := exists_blanks_trimmed cs
  have hsum := congrArg closings hcs
  rw [closings_append, closings_append, hblank hbefore, hblank hafter] at hsum
  omega

theorem closings_intercalate (gs : List (List Char)) :
    closings (['.'].intercalate gs) = (gs.map closings).sum := by
  have hdot (cs : List Char) : closings (['.'] ++ cs) = closings cs := closings_cons_of_ne (by decide) cs
  match gs with
  | [] => rfl
  | [g] => rw [List.intercalate_singleton, List.map_singleton, List.sum_singleton]
  | g :: next :: rest =>
    have ih := closings_intercalate (next :: rest)
    rw [List.intercalate_cons_cons, List.append_assoc, closings_append, hdot, ih, List.map_cons (a := g),
      List.sum_cons]

namespace Name

theorem ne_of_isLost {a b : List Char} {c : Char} (h : isLost a c b = true) : c ≠ ']' := by
  rintro rfl
  have hdot : separates a ']' = false := by
    rw [separates, Bool.and_eq_false_iff]
    exact .inl (by decide)
  have hbracket : isWhiteSpace ']' = false := by decide
  rw [isLost, hdot, hbracket] at h
  cases h

theorem closings_remaining (a cs : List Char) : closings (remaining a cs) = closings cs := by
  induction cs generalizing a with
  | nil => rw [remaining]
  | cons c cs ih =>
    rw [remaining]
    split
    · rename_i hlost
      rw [ih, closings_cons_of_ne (ne_of_isLost hlost)]
    · exact (List.count_cons).trans ((congrArg (· + _) (ih _)).trans List.count_cons.symm)

theorem sum_closings_segmentsOf (cs : List Char) : ((segmentsOf cs).map closings).sum = closings cs := by
  rw [← closings_remaining [] cs, ← flatten_segmentsOf]
  exact List.count_flatten.symm

theorem eq_of_quotedBody? {cs body : List Char} {first : Char} (h : quotedBody? cs = some (first, body)) :
    ∃ last, closing? first = some last ∧ cs = first :: (body ++ [last]) := by
  cases cs with
  | nil => cases h
  | cons c rest =>
    rw [quotedBody?] at h
    split at h
    · rename_i last hlast
      split at h
      · rename_i hclosing
        obtain ⟨rfl, rfl⟩ := Prod.mk.inj (Option.some.inj h)
        exact ⟨last, hclosing, by rw [List.dropLast_append_getLast? last hlast]⟩
      · cases h
    · cases h

/-- At most the bracket that closes a segment is not in the text that the segment stands for. -/
theorem closings_le_ofSegment (g : String) :
    closings g.toList ≤
      closings (Identifier.ofSegment g).text.toList + (Identifier.ofSegment g).quoted.toNat := by
  rw [← closings_trimmed g.toList]
  cases hbody : quotedBody? (trimmed g.toList) with
  | none =>
    have hsegment : Identifier.ofSegment g = ⟨trim g, false⟩ := by
      rw [Identifier.ofSegment, isQuoted, hbody]
      rfl
    rw [hsegment, trim, String.toList_ofList]
    exact Nat.le_add_right _ _
  | some quotes =>
    obtain ⟨first, body⟩ := quotes
    obtain ⟨last, hclosing, hcs⟩ := eq_of_quotedBody? hbody
    have hsegment : Identifier.ofSegment g =
        ⟨String.ofList (if first = '[' then body else undoubled first body), true⟩ := by
      rw [Identifier.ofSegment, isQuoted, unquote, unquotedChars, hbody]
      rfl
    rw [hsegment, String.toList_ofList, hcs]
    show closings ([first] ++ (body ++ [last])) ≤ closings _ + 1
    rw [closings_append, closings_append]
    by_cases hfirst : first = '['
    · subst hfirst
      obtain rfl : ']' = last := Option.some.inj hclosing
      have hopening : closings ['['] = 0 := rfl
      have hlast : closings [']'] = 1 := rfl
      rw [if_pos rfl, hopening, hlast, Nat.zero_add]
    · -- The other quotes close with the mark that opens them, which is no bracket.
      rw [closing?, if_neg hfirst] at hclosing
      split at hclosing
      · rename_i hmark
        obtain rfl := Option.some.inj hclosing
        have hne : first ≠ ']' := by rcases hmark with rfl | rfl <;> decide
        have hquote : closings [first] = 0 := closings_cons_of_ne hne []
        rw [if_neg hfirst, closings_undoubled hne, hquote]
        omega
      · cases hclosing

end Name

namespace Identifier

variable (i : Identifier) (hbare : i.quoted = false → IsBare i.text)
  (hquoted : i.quoted = true → ']' ∉ i.text.toList)

include hbare hquoted

theorem isSegment_targetText : IsSegment i.targetText.toList none := by
  obtain ⟨text, quoted⟩ := i
  cases quoted with
  | false => exact (hbare rfl).isSegment
  | true => exact isSegment_bracketed (hquoted rfl)

theorem ofSegment_targetText : ofSegment i.targetText = i := by
  obtain ⟨text, quoted⟩ := i
  cases quoted with
  | false => exact (hbare rfl).ofSegment_eq
  | true => exact ofSegment_bracketed (hquoted rfl)

end Identifier

/-! ## Names read back -/

theorem closings_targetText (i : Identifier) :
    closings i.targetText.toList =
      closings i.text.toList + i.quoted.toNat + (if i.quoted then closings i.text.toList else 0) := by
  obtain ⟨text, quoted⟩ := i
  cases quoted with
  | false => rfl
  | true =>
    have htext : (bracketed text).toList = ['['] ++ (doubled ']' text.toList ++ [']']) := toList_bracketed text
    have hopening : closings ['['] = 0 := rfl
    have hlast : closings [']'] = 1 := rfl
    show closings (bracketed text).toList = closings text.toList + 1 + closings text.toList
    rw [htext, closings_append, closings_append, closings_doubled, hopening, hlast]
    omega

theorem toList_render_multipartNode (parts : List Identifier) :
    (multipartNode parts).render.toList = ['.'].intercalate (parts.map fun i => i.targetText.toList) := by
  have hdot : ".".toList = ['.'] := by decide
  rw [render_multipartNode, toList_joined, hdot, List.map_map]
  rfl

/-- Rendering writes every closing bracket of a quoted part once more than the parts read back can have. -/
theorem not_mem_of_ofSegment_eq {parts : List Identifier}
    (h : (splitSegments (multipartNode parts).render).map Identifier.ofSegment = parts) :
    ∀ i ∈ parts, i.quoted = true → ']' ∉ i.text.toList := by
  have hwritten : (parts.map fun i => closings i.targetText.toList).sum =
      ((splitSegments (multipartNode parts).render).map fun g => closings g.toList).sum := by
    have hsegments := sum_closings_segmentsOf (multipartNode parts).render.toList
    rw [← map_toList_splitSegments, toList_render_multipartNode, closings_intercalate, List.map_map,
      List.map_map] at hsegments
    exact hsegments.symm
  have hread : ((splitSegments (multipartNode parts).render).map fun g => closings g.toList).sum ≤
      (parts.map fun i => closings i.text.toList + i.quoted.toNat).sum := by
    conv_rhs => rw [← h, List.map_map]
    exact List.sum_le_sum fun g _ => closings_le_ofSegment g
  have hsplit : (parts.map fun i => closings i.targetText.toList).sum =
      (parts.map fun i => closings i.text.toList + i.quoted.toNat).sum +
        (parts.map fun i => if i.quoted then closings i.text.toList else 0).sum := by
    rw [← List.sum_map_add]
    exact congrArg List.sum (List.map_congr_left fun i _ => closings_targetText i)
  have hnone : (parts.map fun i => if i.quoted then closings i.text.toList else 0).sum = 0 := by omega
  intro i hi hquoted
  have hclosings := List.sum_eq_zero_iff.1 hnone _ (List.mem_map_of_mem hi)
  rw [if_pos hquoted] at hclosings
  exact List.count_eq_zero.1 hclosings

/-- A name with bare and with quoted parts, rendered, cut and read, comes out as it was when no quoted part
has a closing bracket in it, and only then. -/
theorem ofSegment_render_iff (parts : List Identifier)
    (hbare : ∀ i ∈ parts, i.quoted = false → IsBare i.text) :
    (splitSegments (multipartNode parts).render).map Identifier.ofSegment = parts ↔
      ∀ i ∈ parts, i.quoted = true → ']' ∉ i.text.toList := by
  refine ⟨not_mem_of_ofSegment_eq, fun hquoted => ?_⟩
  have hsegments : ∀ g ∈ parts.map fun i => i.targetText.toList, IsSegment g none :=
    List.forall_mem_map.2 fun i hi => i.isSegment_targetText (hbare i hi) (hquoted i hi)
  have hsplit : splitSegments (multipartNode parts).render = parts.map Identifier.targetText := by
    refine List.map_injective_iff.2 (fun _ _ => String.toList_injective) ?_
    rw [map_toList_splitSegments, toList_render_multipartNode, segmentsOf_intercalate hsegments, List.map_map]
    rfl
  have hread : ∀ i ∈ parts, (Identifier.ofSegment ∘ Identifier.targetText) i = id i := by
    intro i hi
    rw [Function.comp_apply, id, i.ofSegment_targetText (hbare i hi) (hquoted i hi)]
  rw [hsplit, List.map_map, List.map_congr_left hread, List.map_id]

theorem ofSegment_render_iff_dotted :
    let parts : List Identifier := [⟨"a]", false⟩, ⟨"b.[ c", true⟩, ⟨"", true⟩]
    (∀ i ∈ parts, i.quoted = false → IsBare i.text) ∧
      (splitSegments (multipartNode parts).render).map Identifier.ofSegment = parts := by
  intro parts
  have hbare : ∀ i ∈ parts, i.quoted = false → IsBare i.text := by
    intro i hi hquoted
    simp only [parts, List.mem_cons, List.not_mem_nil, or_false] at hi
    rcases hi with rfl | rfl | rfl
    · exact ⟨by decide, by decide +kernel, by simp [graveAccent]⟩
    · exact absurd hquoted nofun
    · exact absurd hquoted nofun
  refine ⟨hbare, (ofSegment_render_iff parts hbare).2 ?_⟩
  decide

/-- A closing bracket between brackets ends a part too early. -/
theorem not_forall_ofSegment_render :
    ¬ ∀ parts : List Identifier, parts ≠ [] → (∀ i ∈ parts, i.quoted = false → IsBare i.text) →
      (splitSegments (multipartNode parts).render).map Identifier.ofSegment = parts := by
  intro h
  have hbracket := h [⟨"a].b", true⟩] (List.cons_ne_nil _ _)
    (List.forall_mem_singleton.2 fun hquoted => absurd hquoted nofun)
  exact absurd hbracket (by decide +kernel)

end DialectConversion
