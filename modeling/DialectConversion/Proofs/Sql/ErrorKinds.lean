import DialectConversion.Proofs.Sql.Places
import Mathlib.Data.List.Infix

/-! Kinds of errors. The grammar's rejections count as the end of the input if they speak of it, in whichever
part of their wording. The wording has a part that the user wrote, so what was found decides the kind when it
only happens to have these letters in it. -/
namespace DialectConversion.Text
set_option autoImplicit false

theorem occursIn_iff_isInfix {part cs : List Char} : occursIn part cs = true ↔ part <:+: cs := by
  induction cs with
  | nil => rw [occursIn, List.isEmpty_iff, List.infix_nil]
  | cons c cs ih => rw [occursIn, Bool.or_eq_true, List.isPrefixOf_iff_prefix, ih, List.infix_cons_iff]

theorem containsIgnoringAsciiCase_iff {text part : String} :
    containsIgnoringAsciiCase text part = true ↔
      ∃ word, word <:+: text.toList ∧ part.toList.map Char.toLower = word.map Char.toLower := by
  rw [containsIgnoringAsciiCase, occursIn_iff_isInfix, List.infix_map_iff]

end DialectConversion.Text
namespace DialectConversion.Sql
open Text

/-! ## Speaking of the end -/

/-- A text that speaks of the end of the input, in any case of letters. -/
def NamesEnd (cs : List Char) : Prop := ∃ word, word <:+: cs ∧ "eof".toList = word.map Char.toLower

theorem containsIgnoringAsciiCase_iff_namesEnd (text : String) :
    containsIgnoringAsciiCase text "eof" = true ↔ NamesEnd text.toList := by
  have hlower : "eof".toList.map Char.toLower = "eof".toList := by decide
  rw [containsIgnoringAsciiCase_iff, hlower, NamesEnd]

instance (cs : List Char) : Decidable (NamesEnd cs) :=
  decidable_of_iff (containsIgnoringAsciiCase (String.ofList cs) "eof" = true)
    (by rw [containsIgnoringAsciiCase_iff_namesEnd, String.toList_ofList])

/-- It takes an f to speak of the end. -/
theorem not_namesEnd_of_not_mem {cs : List Char} (h : 'f' ∉ cs.map Char.toLower) : ¬ NamesEnd cs := by
  rintro ⟨word, hword, hlower⟩
  have hf : 'f' ∈ word.map Char.toLower := by
    rw [← hlower]
    decide
  exact h ((hword.map Char.toLower).subset hf)

/-- No mention of the end goes across a character that has no part in it. -/
theorem namesEnd_append_cons {c : Char} (hc : c.toLower ∉ "eof".toList) (a b : List Char) :
    NamesEnd (a ++ c :: b) ↔ NamesEnd a ∨ NamesEnd b := by
  have hapart {word : List Char} (hlower : "eof".toList = word.map Char.toLower) : c ∉ word := by
    intro hmem
    rw [hlower] at hc
    exact hc (List.mem_map_of_mem hmem)
  constructor
  · rintro ⟨word, hword, hlower⟩
    rcases List.infix_append_iff.1 hword with hword | hword | ⟨first, second, rfl, hfirst, hsecond⟩
    · exact .inl ⟨word, hword, hlower⟩
    · rcases List.infix_cons_iff.1 hword with hword | hword
      · rcases List.prefix_cons_iff.1 hword with rfl | ⟨rest, rfl, -⟩
        · exact absurd hlower (by decide)
        · exact absurd List.mem_cons_self (hapart hlower)
      · exact .inr ⟨word, hword, hlower⟩
    · rcases List.prefix_cons_iff.1 hsecond with rfl | ⟨rest, rfl, -⟩
      · rw [List.append_nil] at hlower
        exact .inl ⟨first, hfirst.isInfix, hlower⟩
      · exact absurd (List.mem_append_right first List.mem_cons_self) (hapart hlower)
  · rintro (⟨word, hword, hlower⟩ | ⟨word, hword, hlower⟩)
    · exact ⟨word, hword.trans (List.prefix_append a _).isInfix, hlower⟩
    · exact ⟨word, (List.infix_cons hword).trans (List.suffix_append a _).isInfix, hlower⟩

/-! ## Kinds -/

theorem kind_ofRejection (r : Rejection) : (ParseError.ofRejection r).kind = r.kind := rfl

theorem kind_grammatical (p : String) (left : Nat) :
    (Rejection.grammatical p left).kind = if NamesEnd p.toList then .unexpectedEof else .syntaxError := by
  have hblank : ' '.toLower ∉ "eof".toList := by decide
  have hprefix : ¬ NamesEnd "sql parser error:".toList := by decide
  have hcut : "sql parser error: ".toList = "sql parser error:".toList ++ [' '] := by decide
  have hiff := containsIgnoringAsciiCase_iff_namesEnd ("sql parser error: " ++ p)
  rw [String.toList_append, hcut, ← List.append_cons, namesEnd_append_cons hblank, or_iff_right hprefix] at hiff
  have hkind : (Rejection.grammatical p left).kind =
      if containsIgnoringAsciiCase ("sql parser error: " ++ p) "eof" then .unexpectedEof else .syntaxError := rfl
  rw [hkind]
  by_cases hp : NamesEnd p.toList
  · rw [if_pos hp, if_pos (hiff.2 hp)]
  · rw [if_neg hp, if_neg (mt hiff.1 hp)]

theorem toLower_of_isDigit {c : Char} (h : c.isDigit = true) : c.toLower = c := by
  simp only [Char.isDigit, Bool.and_eq_true, decide_eq_true_eq, UInt32.le_iff_toNat_le] at h
  have hdigit : c.toNat ≤ 57 := h.2
  refine dif_neg fun hupper => ?_
  have hletter : 65 ≤ c.toNat := UInt32.le_iff_toNat_le.1 hupper.1
  omega

theorem not_namesEnd_described (l : Location) : ¬ NamesEnd l.described.toList := by
  have hdigits (n : Nat) : 'f' ∉ (toString n).toList.map Char.toLower := by
    intro hf
    obtain ⟨c, hc, hcf⟩ := List.mem_map.1 hf
    have hdigit := isDigit_of_mem_digits hc
    rw [toLower_of_isDigit hdigit] at hcf
    rw [hcf] at hdigit
    exact absurd hdigit (by decide)
  refine not_namesEnd_of_not_mem ?_
  simp only [Location.described, String.toList_append, List.map_append, List.mem_append, not_or]
  exact ⟨⟨⟨by decide, hdigits l.line⟩, by decide⟩, hdigits l.column⟩

/-- A message of the common form speaks of the end exactly if what was found does, given that what was expected
does not. -/
theorem namesEnd_expected_found {e : String} (he : ¬ NamesEnd e.toList) (t : String) (l : Location) :
    NamesEnd ("Expected: " ++ e ++ ", found: " ++ t ++ l.described).toList ↔ NamesEnd t.toList := by
  have hblank : ' '.toLower ∉ "eof".toList := by decide
  have hcomma : ','.toLower ∉ "eof".toList := by decide
  obtain ⟨tail, htail⟩ : ∃ tail, l.described.toList = ' ' :: tail := ⟨_, toList_described l⟩
  have hplace : ¬ NamesEnd tail := by
    have hdescribed := not_namesEnd_described l
    rw [htail, ← List.nil_append (' ' :: tail), namesEnd_append_cons hblank, not_or] at hdescribed
    exact hdescribed.2
  have hmessage : ("Expected: " ++ e ++ ", found: " ++ t ++ l.described).toList =
      "Expected:".toList ++ ' ' :: (e.toList ++ ',' :: (" found:".toList ++ ' ' :: (t.toList ++ ' ' :: tail))) := by
    simp only [String.toList_append, htail, List.append_assoc]
    rfl
  rw [hmessage, namesEnd_append_cons hblank, namesEnd_append_cons hcomma, namesEnd_append_cons hblank,
    namesEnd_append_cons hblank, or_iff_right (by decide), or_iff_right he, or_iff_right (by decide),
    or_iff_left hplace]

/-- The end of the input is reported for what was found exactly if that speaks of it, given that what was
expected does not. -/
theorem kind_ofRejection_found {e : String} (he : ¬ NamesEnd e.toList) (t : String) (l : Location) (left : Nat) :
    (ParseError.ofRejection (.grammatical ("Expected: " ++ e ++ ", found: " ++ t ++ l.described) left)).kind =
      if NamesEnd t.toList then .unexpectedEof else .syntaxError := by
  simp only [kind_ofRejection, kind_grammatical, namesEnd_expected_found he]

theorem kind_ofRejection_found_end :
    ¬ NamesEnd "end of statement".toList ∧
      (ParseError.ofRejection (.grammatical
        ("Expected: " ++ "end of statement" ++ ", found: " ++ "EOF" ++ (⟨1, 18⟩ : Location).described) 0)).kind =
          .unexpectedEof ∧
      (ParseError.ofRejection (.grammatical
        ("Expected: " ++ "end of statement" ++ ", found: " ++ "u" ++ (⟨1, 19⟩ : Location).described) 1)).kind =
          .syntaxError := by
  have he : ¬ NamesEnd "end of statement".toList := by decide
  refine ⟨he, ?_, ?_⟩
  · rw [kind_ofRejection_found he "EOF"]
    decide
  · rw [kind_ofRejection_found he "u"]
    decide

/-- A name that has the letters in it is not the end of the input, but counts as such. -/
theorem not_forall_kind_ofRejection :
    ¬ ∀ (e t : String) (l : Location) (left : Nat), ¬ NamesEnd e.toList → t ≠ "EOF" →
      (ParseError.ofRejection (.grammatical ("Expected: " ++ e ++ ", found: " ++ t ++ l.described) left)).kind =
        .syntaxError := by
  intro h
  exact absurd (h "end of statement" "geofence" ⟨1, 19⟩ 1 (by decide) (by decide)) (by decide +kernel)

end DialectConversion.Sql
