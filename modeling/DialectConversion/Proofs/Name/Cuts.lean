import DialectConversion.Proofs.Name.Pieces
import Mathlib.Data.List.DropRight

/-! Cuts of dotted names, by induction. A text goes on behind a dot outside quotes or is not cut at all; by
these two cases segments are not cut again, and joined segments are cut where they were joined. -/
namespace DialectConversion.Name
set_option autoImplicit false
open Text (trimmed trim isWhiteSpace joined)

/-! ## Texts as they are cut -/

/-- A text is not cut, or it is cut first behind a text that ends outside quotes. -/
theorem uncut_or_cut (q : Option Char) (cs : List Char) :
    Uncut q cs (openAfter q cs) ∨ ∃ a b, cs = a ++ '.' :: b ∧ Uncut q a none := by
  induction cs generalizing q with
  | nil => exact .inl (Uncut.nil q)
  | cons c cs ih =>
    have hbehind {r : Option Char} (hc : Uncut q [c] r) (hopen : openAfter q (c :: cs) = openAfter r cs) :
        Uncut q (c :: cs) (openAfter q (c :: cs)) ∨ ∃ a b, c :: cs = a ++ '.' :: b ∧ Uncut q a none := by
      rcases ih r with hrest | ⟨a, b, rfl, ha⟩
      · rw [hopen]
        exact .inl (hc.append hrest)
      · exact .inr ⟨c :: a, b, rfl, hc.append ha⟩
    cases q with
    | none =>
      by_cases hdot : c = '.'
      · subst hdot
        exact .inr ⟨[], cs, rfl, Uncut.nil none⟩
      · exact hbehind (Uncut.outside hdot) (by rw [openAfter])
    | some q => exact hbehind (Uncut.inside q c) (by rw [openAfter])

/-- A property of all texts, shown of those that are not cut, and of a text that is cut if it holds of what
follows the cut. -/
theorem cutInduction {P : List Char → Prop} (whole : ∀ cs q, Uncut none cs q → P cs)
    (cut : ∀ a b, Uncut none a none → P b → P (a ++ '.' :: b)) (cs : List Char) : P cs := by
  match uncut_or_cut none cs with
  | .inl hwhole => exact whole cs _ hwhole
  | .inr ⟨a, b, hcs, ha⟩ =>
    rw [hcs]
    exact cut a b ha (cutInduction whole cut b)
termination_by cs.length
decreasing_by
  rw [hcs, List.length_append, List.length_cons]
  omega

namespace Uncut

theorem openAfter_ne_none {q r : Option Char} {a b : List Char} (h : Uncut q (a ++ '.' :: b) r) :
    openAfter q a ≠ none := by
  intro hclosed
  have hpieces := h.pieces_eq
  rw [pieces_append_dot hclosed] at hpieces
  have hlength := congrArg List.length hpieces
  rw [List.length_append, List.length_singleton] at hlength
  have ha := List.length_pos_iff.2 (pieces_ne_nil q a)
  have hb := List.length_pos_iff.2 (pieces_ne_nil none b)
  omega

theorem of_openAfter_ne_none {q : Option Char} {cs : List Char}
    (h : ∀ a b, cs = a ++ '.' :: b → openAfter q a ≠ none) : Uncut q cs (openAfter q cs) := by
  rcases uncut_or_cut q cs with hwhole | ⟨a, b, hcs, ha⟩
  · exact hwhole
  · exact absurd ha.openAfter_eq (h a b hcs)

theorem left {q r : Option Char} {a b : List Char} (h : Uncut q (a ++ b) r) : Uncut q a (openAfter q a) := by
  refine of_openAfter_ne_none fun x y hxy => ?_
  rw [hxy, List.append_assoc, List.cons_append] at h
  exact h.openAfter_ne_none

theorem inside_of_forall {q : Char} {cs : List Char} (h : ∀ c ∈ cs, c ≠ q) : Uncut (some q) cs (some q) := by
  induction cs with
  | nil => exact nil _
  | cons c cs ih =>
    rw [List.forall_mem_cons] at h
    have hc := inside q c
    rw [if_neg h.1] at hc
    exact hc.append (ih h.2)

/-- White space outside quotes in front of a text does not matter to how it is cut. -/
theorem of_blanks_append {r : Option Char} {blanks cs : List Char}
    (hblanks : ∀ c ∈ blanks, isWhiteSpace c = true) (h : Uncut none (blanks ++ cs) r) : Uncut none cs r := by
  have hopen (a : List Char) : openAfter none (blanks ++ a) = openAfter none a := by
    rw [openAfter_append, (of_isWhiteSpace hblanks).openAfter_eq]
  have hcs : Uncut none cs (openAfter none cs) := by
    refine of_openAfter_ne_none fun x y hxy => ?_
    rw [hxy, ← List.append_assoc] at h
    rw [← hopen x]
    exact h.openAfter_ne_none
  rwa [← hopen cs, h.openAfter_eq] at hcs

end Uncut

/-! ## White space at the ends -/

theorem exists_blanks_trimmed (cs : List Char) :
    ∃ before after, (∀ c ∈ before, isWhiteSpace c = true) ∧ (∀ c ∈ after, isWhiteSpace c = true) ∧
      cs = before ++ (trimmed cs ++ after) := by
  refine ⟨cs.takeWhile isWhiteSpace, (cs.dropWhile isWhiteSpace).rtakeWhile isWhiteSpace,
    fun c hc => List.mem_takeWhile_imp hc, fun c hc => List.mem_rtakeWhile_imp hc, ?_⟩
  have htrimmed : trimmed cs = (cs.dropWhile isWhiteSpace).rdropWhile isWhiteSpace := rfl
  rw [htrimmed, List.rdropWhile_append_rtakeWhile, List.takeWhile_append_dropWhile]

theorem trimmed_trimmed (cs : List Char) : trimmed (trimmed cs) = trimmed cs := by
  obtain ⟨before, after, hbefore, hafter, hcs⟩ := exists_blanks_trimmed cs
  rw [← trimmed_blanks hbefore hafter (trimmed cs), ← hcs]

theorem isWhiteSpace_of_closing? {c m : Char} (h : closing? c = some m) : isWhiteSpace m = false := by
  unfold closing? at h
  split at h
  · rename_i hquote
    obtain rfl := Option.some.inj h
    rcases hquote with rfl | rfl <;> decide
  · split at h
    · obtain rfl := Option.some.inj h
      decide
    · cases h

theorem isWhiteSpace_of_openAfter {q : Option Char} {cs : List Char}
    (hq : ∀ m, q = some m → isWhiteSpace m = false) : ∀ m, openAfter q cs = some m → isWhiteSpace m = false := by
  induction cs generalizing q with
  | nil => rwa [openAfter]
  | cons c cs ih =>
    cases q with
    | none =>
      rw [openAfter]
      exact ih fun m hm => isWhiteSpace_of_closing? hm
    | some q =>
      rw [openAfter]
      refine ih fun m hm => ?_
      split at hm
      · cases hm
      · exact hq m hm

theorem openAfter_append_blanks {blanks : List Char} (hblanks : ∀ c ∈ blanks, isWhiteSpace c = true)
    (cs : List Char) : openAfter none (cs ++ blanks) = openAfter none cs := by
  rw [openAfter_append]
  cases hcs : openAfter none cs with
  | none => exact (Uncut.of_isWhiteSpace hblanks).openAfter_eq
  | some m =>
    have hm := isWhiteSpace_of_openAfter (q := none) nofun m hcs
    refine (Uncut.inside_of_forall fun c hc => ?_).openAfter_eq
    rintro rfl
    rw [hblanks c hc] at hm
    exact absurd hm nofun

/-! ## Segments -/

/-- A text that is a segment by itself and ends in some quotes, or outside of any. -/
structure IsSegment (cs : List Char) (q : Option Char) : Prop where
  uncut : Uncut none cs q
  trimmed_eq : trimmed cs = cs
  ne_nil : cs ≠ []

theorem segmentsOf_whole {cs : List Char} {q : Option Char} (h : Uncut none cs q) :
    segmentsOf cs = if trimmed cs = [] then [] else [trimmed cs] := by
  rw [segmentsOf, h.pieces_eq, List.map_singleton]
  cases htrimmed : trimmed cs with
  | nil => rfl
  | cons c rest => rfl

theorem IsSegment.segmentsOf_eq {cs : List Char} {q : Option Char} (h : IsSegment cs q) :
    segmentsOf cs = [cs] := by
  rw [segmentsOf_whole h.uncut, h.trimmed_eq, if_neg h.ne_nil]

/-- A text that is not cut is a segment when the white space around it is left out, unless it is blank. -/
theorem Uncut.isSegment_trimmed {cs : List Char} {q : Option Char} (h : Uncut none cs q)
    (hne : trimmed cs ≠ []) : IsSegment (trimmed cs) q := by
  obtain ⟨before, after, hbefore, hafter, hcs⟩ := exists_blanks_trimmed cs
  rw [hcs] at h
  have hbehind := Uncut.of_blanks_append hbefore h
  have hopen : openAfter none (trimmed cs) = q := by
    rw [← openAfter_append_blanks hafter, hbehind.openAfter_eq]
  refine ⟨?_, trimmed_trimmed cs, hne⟩
  rw [← hopen]
  exact hbehind.left

theorem segmentsOf_isSegment (cs : List Char) : ∀ g ∈ segmentsOf cs, ∃ q, IsSegment g q := by
  have hwhole {cs : List Char} {q : Option Char} (h : Uncut none cs q) :
      ∀ g ∈ segmentsOf cs, ∃ q, IsSegment g q := by
    intro g hg
    rw [segmentsOf_whole h] at hg
    split at hg
    · exact absurd hg List.not_mem_nil
    · rename_i hne
      obtain rfl := List.mem_singleton.1 hg
      exact ⟨q, h.isSegment_trimmed hne⟩
  induction cs using cutInduction with
  | whole cs q h => exact hwhole h
  | cut a b ha ih =>
    rw [segmentsOf_append_dot ha.openAfter_eq]
    intro g hg
    rcases List.mem_append.1 hg with hg | hg
    · exact hwhole ha g hg
    · exact ih g hg

/-! ## Segments with dots between them -/

theorem toList_joined (separator : String) (gs : List String) :
    (joined separator gs).toList = separator.toList.intercalate (gs.map String.toList) := by
  match gs with
  | [] => exact List.intercalate_nil.symm
  | [g] => exact List.intercalate_singleton.symm
  | g :: next :: rest =>
    have ih := toList_joined separator (next :: rest)
    rw [List.map_cons] at ih
    rw [joined, String.toList_append, String.toList_append, ih, List.map_cons, List.map_cons,
      List.intercalate_cons_cons]

theorem segmentsOf_intercalate_cons {g : List Char} (hg : IsSegment g none) (gs : List (List Char)) :
    segmentsOf (['.'].intercalate (g :: gs)) = g :: segmentsOf (['.'].intercalate gs) := by
  cases gs with
  | nil => rw [List.intercalate_singleton, hg.segmentsOf_eq, List.intercalate_nil]; rfl
  | cons next rest =>
    rw [List.intercalate_cons_cons, List.append_assoc, List.singleton_append,
      segmentsOf_append_dot hg.uncut.openAfter_eq, hg.segmentsOf_eq, List.singleton_append]

/-- Segments that end outside quotes are the segments of the text that they make up. -/
theorem segmentsOf_intercalate {gs : List (List Char)} (h : ∀ g ∈ gs, IsSegment g none) :
    segmentsOf (['.'].intercalate gs) = gs := by
  induction gs with
  | nil => rw [List.intercalate_nil]; rfl
  | cons g gs ih =>
    rw [List.forall_mem_cons] at h
    rw [segmentsOf_intercalate_cons h.1, ih h.2]

/-- The last segment of a text may end in quotes, for nothing follows it. -/
theorem segmentsOf_intercalate_segmentsOf (cs : List Char) :
    segmentsOf (['.'].intercalate (segmentsOf cs)) = segmentsOf cs := by
  induction cs using cutInduction with
  | whole cs q h =>
    have hsegments := segmentsOf_whole h
    split at hsegments
    · rw [hsegments, List.intercalate_nil]
      rfl
    · rename_i hne
      rw [hsegments, List.intercalate_singleton, (h.isSegment_trimmed hne).segmentsOf_eq]
  | cut a b ha ih =>
    have hsegments := segmentsOf_whole ha
    rw [segmentsOf_append_dot ha.openAfter_eq]
    split at hsegments
    · rw [hsegments, List.nil_append, ih]
    · rename_i hne
      rw [hsegments, List.singleton_append, segmentsOf_intercalate_cons (ha.isSegment_trimmed hne), ih]

theorem map_toList_splitSegments (s : String) : (splitSegments s).map String.toList = segmentsOf s.toList := by
  rw [splitSegments, List.map_map]
  exact (List.map_congr_left fun g _ => String.toList_ofList).trans (List.map_id _)

end DialectConversion.Name
