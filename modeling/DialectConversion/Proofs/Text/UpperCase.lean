import DialectConversion.Text.Basic
import DialectConversion.Text.UpperCase
import Mathlib

/-! Full upper-casing seen from ASCII. It leaves no lower-case ASCII letter, and ten letters beyond ASCII
are all that it brings into ASCII. So it takes a text to an ASCII text exactly if the text, with these ten
letters spelled out, is the same up to the case of ASCII letters. -/
namespace DialectConversion.Text
set_option autoImplicit false

/-- The letters beyond ASCII whose upper-case form is in ASCII, each with the ASCII letters that have the
same upper-case form. -/
def asciiSpellings : List (Nat × List Char) := [
  (0xDF, ['s', 's']), (0x131, ['i']), (0x17F, ['s']), (0xFB00, ['f', 'f']), (0xFB01, ['f', 'i']),
  (0xFB02, ['f', 'l']), (0xFB03, ['f', 'f', 'i']), (0xFB04, ['f', 'f', 'l']), (0xFB05, ['s', 't']),
  (0xFB06, ['s', 't'])]

def spelledOutChar (c : Char) : List Char := (asciiSpellings.lookup c.toNat).getD [c]

/-- A text with the letters that upper-casing brings into ASCII spelled out in ASCII. -/
def spelledOut (s : String) : String := String.ofList (s.toList.flatMap spelledOutChar)

/-! ## The tables -/

theorem mem_of_lookup_eq_some {α : Type} {key : Nat} {value : α} {entries : List (Nat × α)}
    (h : entries.lookup key = some value) : (key, value) ∈ entries := by
  rw [List.lookup_eq_some_iff] at h
  obtain ⟨before, after, rfl, -⟩ := h
  exact List.mem_append_right _ List.mem_cons_self

theorem asciiSpellings_upperChar :
    ∀ e ∈ asciiSpellings, upperChar (Char.ofNat e.1) = e.2.map Char.toUpper := by decide +kernel

/-- The forms that are listed are in upper case, and reach beyond ASCII unless they are among the ten. -/
theorem upperExpansions_forms : ∀ e ∈ upperExpansions,
    (∀ n ∈ e.2, (Char.ofNat n).toUpper = Char.ofNat n) ∧
      (asciiSpellings.lookup e.1 = none → ∃ n ∈ e.2, 0x80 ≤ (Char.ofNat n).toNat) := by decide +kernel

/-- A run leads beyond ASCII and to characters only, unless it consists of one of the ten letters. -/
theorem upperRuns_bounds : ∀ r ∈ upperRuns,
    (r.1 = r.2.1 ∧ (asciiSpellings.lookup r.1).isSome) ∨
      (0x80 ≤ r.1 + r.2.2.2 ∧
        (r.2.1 + r.2.2.2 < 0xD800 ∨ 0xDFFF < r.1 + r.2.2.2 ∧ r.2.1 + r.2.2.2 < 0x110000)) := by
  decide +kernel

/-! ## Characters -/

theorem toUpper_of_not_ascii {c : Char} (hc : 0x80 ≤ c.toNat) : c.toUpper = c := by
  apply Char.toUpper_eq_of_not_isLower
  intro hlower
  simp only [Char.isLower, Bool.and_eq_true, decide_eq_true_eq, UInt32.le_iff_toNat_le] at hlower
  have hle : c.toNat ≤ 122 := hlower.2
  omega

theorem toLower_of_not_ascii {c : Char} (hc : 0x80 ≤ c.toNat) : c.toLower = c := by
  apply Char.toLower_eq_of_not_isUpper
  intro hupper
  simp only [Char.isUpper, decide_eq_true_eq, UInt32.le_iff_toNat_le] at hupper
  have hle : c.toNat ≤ 90 := hupper.2
  omega

theorem upperChar_of_asciiSpellings {c : Char} {letters : List Char}
    (h : asciiSpellings.lookup c.toNat = some letters) : upperChar c = letters.map Char.toUpper := by
  have hletters := asciiSpellings_upperChar _ (mem_of_lookup_eq_some h)
  rwa [Char.ofNat_toNat] at hletters

theorem upperChar_of_not_ascii {c : Char} (hc : 0x80 ≤ c.toNat)
    (hkey : asciiSpellings.lookup c.toNat = none) :
    (∃ form, upperExpansions.lookup c.toNat = some form ∧ upperChar c = form.map Char.ofNat) ∨
      ∃ d, upperChar c = [d] ∧ 0x80 ≤ d.toNat := by
  have hnot : ¬ c.toNat < 0x80 := Nat.not_lt.2 hc
  unfold upperChar
  rw [if_neg hnot]
  split
  · rename_i form hform
    exact .inl ⟨form, hform, rfl⟩
  · right
    split
    · rename_i r hr
      have hin := List.find?_some hr
      simp only [Bool.and_eq_true, decide_eq_true_eq] at hin
      obtain ⟨⟨hfirst, hlast⟩, -⟩ := hin
      rcases upperRuns_bounds r (List.mem_of_find?_eq_some hr) with ⟨hsingle, hten⟩ | ⟨hbeyond, hvalid⟩
      · have hcode : r.1 = c.toNat := by omega
        rw [hcode, hkey] at hten
        exact absurd hten (by decide)
      · refine ⟨_, rfl, ?_⟩
        have hcharacter : ((c.toNat : Int) + r.2.2.2).toNat.isValidChar := by
          unfold Nat.isValidChar
          omega
        rw [Char.toNat_ofNat, if_pos hcharacter]
        omega
    · exact ⟨c, rfl, hc⟩

theorem toUpper_of_mem_upperChar {c d : Char} (hd : d ∈ upperChar c) : d.toUpper = d := by
  by_cases hc : c.toNat < 0x80
  · rw [upperChar, if_pos hc, List.mem_singleton] at hd
    rw [hd, Char.toUpper_toUpper_eq_toUpper]
  · cases hkey : asciiSpellings.lookup c.toNat with
    | some letters =>
      rw [upperChar_of_asciiSpellings hkey] at hd
      obtain ⟨letter, -, rfl⟩ := List.mem_map.1 hd
      exact Char.toUpper_toUpper_eq_toUpper letter
    | none =>
      rcases upperChar_of_not_ascii (Nat.not_lt.1 hc) hkey with ⟨form, hlookup, hform⟩ | ⟨e, hform, he⟩
      · rw [hform] at hd
        obtain ⟨n, hn, rfl⟩ := List.mem_map.1 hd
        exact (upperExpansions_forms _ (mem_of_lookup_eq_some hlookup)).1 n hn
      · rw [hform, List.mem_singleton] at hd
        rw [hd]
        exact toUpper_of_not_ascii he

/-- Upper-casing a character is spelling it out and upper-casing the letters, unless both lead beyond
ASCII. -/
theorem upperChar_eq_or (c : Char) :
    upperChar c = (spelledOutChar c).map Char.toUpper ∨
      spelledOutChar c = [c] ∧ 0x80 ≤ c.toNat ∧ ∃ d ∈ upperChar c, 0x80 ≤ d.toNat := by
  cases hkey : asciiSpellings.lookup c.toNat with
  | some letters =>
    left
    rw [upperChar_of_asciiSpellings hkey, spelledOutChar, hkey, Option.getD_some]
  | none =>
    have hspelled : spelledOutChar c = [c] := by rw [spelledOutChar, hkey, Option.getD_none]
    by_cases hc : c.toNat < 0x80
    · left
      rw [hspelled, upperChar, if_pos hc, List.map_singleton]
    · right
      refine ⟨hspelled, Nat.not_lt.1 hc, ?_⟩
      rcases upperChar_of_not_ascii (Nat.not_lt.1 hc) hkey with ⟨form, hlookup, hform⟩ | ⟨d, hform, hd⟩
      · obtain ⟨n, hn, hbeyond⟩ := (upperExpansions_forms _ (mem_of_lookup_eq_some hlookup)).2 hkey
        rw [hform]
        exact ⟨Char.ofNat n, List.mem_map_of_mem hn, hbeyond⟩
      · rw [hform]
        exact ⟨d, List.mem_singleton_self d, hd⟩

/-! ## Texts -/

/-- Two ways of writing out characters lead from the same texts to texts of a kind, if they agree on each
character that either of them takes there. -/
theorem flatMap_eq_iff {f g : Char → List Char} {p : Char → Prop}
    (h : ∀ c, f c = g c ∨ (∃ d ∈ f c, ¬ p d) ∧ ∃ d ∈ g c, ¬ p d) {t : List Char} (ht : ∀ d ∈ t, p d)
    (cs : List Char) : cs.flatMap f = t ↔ cs.flatMap g = t := by
  constructor
  · rintro rfl
    refine (List.flatMap_congr fun c hc => ?_).symm
    rcases h c with heq | ⟨⟨d, hd, hp⟩, -⟩
    · exact heq
    · exact absurd (ht d (List.mem_flatMap.2 ⟨c, hc, hd⟩)) hp
  · rintro rfl
    refine List.flatMap_congr fun c hc => ?_
    rcases h c with heq | ⟨-, d, hd, hp⟩
    · exact heq
    · exact absurd (ht d (List.mem_flatMap.2 ⟨c, hc, hd⟩)) hp

/-- Up to the case of ASCII letters, upper-casing a text comes to an ASCII text exactly if spelling it out
does. -/
theorem equalIgnoringAsciiCase_upper {t : String} (ht : ∀ d ∈ t.toList, d.toLower.toNat < 0x80)
    (s : String) : equalIgnoringAsciiCase t (upper s) = equalIgnoringAsciiCase t (spelledOut s) := by
  have hchar (c : Char) :
      (upperChar c).map Char.toLower = (spelledOutChar c).map Char.toLower ∨
        (∃ d ∈ (upperChar c).map Char.toLower, ¬ d.toNat < 0x80) ∧
          ∃ d ∈ (spelledOutChar c).map Char.toLower, ¬ d.toNat < 0x80 := by
    rcases upperChar_eq_or c with heq | ⟨hspelled, hc, d, hd, hbeyond⟩
    · left
      rw [heq, List.map_map]
      exact List.map_congr_left fun letter _ => Char.toLower_toUpper_eq_toLower letter
    · right
      refine ⟨⟨d, ?_, Nat.not_lt.2 hbeyond⟩, c, ?_, Nat.not_lt.2 hc⟩
      · rw [← toLower_of_not_ascii hbeyond]
        exact List.mem_map_of_mem hd
      · rw [hspelled, List.map_singleton, toLower_of_not_ascii hc]
        exact List.mem_singleton_self c
  have hlower : ∀ d ∈ t.toList.map Char.toLower, d.toNat < 0x80 := List.forall_mem_map.2 ht
  have hiff := flatMap_eq_iff hchar hlower s.toList
  unfold equalIgnoringAsciiCase upper spelledOut
  rw [String.toList_ofList, String.toList_ofList, List.map_flatMap, List.map_flatMap, Bool.eq_iff_iff,
    beq_iff_eq, beq_iff_eq, eq_comm, hiff, eq_comm]

/-- A text that is upper-cased is in upper case. So it is equal to another one in upper case if they are
the same up to the case of ASCII letters. -/
theorem upper_eq_of_equalIgnoringAsciiCase {t s : String} (ht : ∀ d ∈ t.toList, d.toUpper = d)
    (h : equalIgnoringAsciiCase t (upper s) = true) : upper s = t := by
  have hupper : ∀ d ∈ (upper s).toList, d.toUpper = d := by
    intro d hd
    rw [upper, String.toList_ofList, List.mem_flatMap] at hd
    obtain ⟨c, -, hd⟩ := hd
    exact toUpper_of_mem_upperChar hd
  have hlower : t.toList.map Char.toLower = (upper s).toList.map Char.toLower := beq_iff_eq.1 h
  have hcases (cs : List Char) (hcs : ∀ d ∈ cs, d.toUpper = d) :
      (cs.map Char.toLower).map Char.toUpper = cs := by
    rw [List.map_map]
    calc cs.map (Char.toUpper ∘ Char.toLower)
        = cs.map id := List.map_congr_left fun d hd => (Char.toUpper_toLower_eq_toUpper d).trans (hcs d hd)
      _ = cs := List.map_id cs
  apply String.toList_injective
  rw [← hcases _ hupper, ← hlower, hcases _ ht]

end DialectConversion.Text
