import DialectConversion.Sql.ParseError
import DialectConversion.Sql.Token
import Mathlib.Computability.Language
import Mathlib.Data.List.TakeWhile

/-! Places that messages name. Where a place is named is said as a language here, and reading finds a place
exactly in the texts that have one in this form somewhere. The place that is appended to a message is read
off it unless the message names a place itself, which then counts, for it comes first. -/
namespace DialectConversion.Sql
set_option autoImplicit false
open Text

/-! ## The form of a place -/

/-- White space, if any. -/
def gaps : Language Char := {cs | ∀ c ∈ cs, isWhiteSpace c = true}

/-- Digits of any script, at least one. -/
def digitRuns : Language Char := {cs | cs ≠ [] ∧ ∀ c ∈ cs, isDecimalDigit c = true}

/-- The ways to name the place with the given digits. -/
def placeForms (line column : List Char) : Language Char :=
  {"Line:".toList} * (gaps * ({line} * (gaps * ({[',']} *
    (gaps * ({"Column:".toList} * (gaps * {column})))))))

/-- A text in which some place is named. -/
def NamesPlace (cs : List Char) : Prop :=
  ∃ line ∈ digitRuns, ∃ column ∈ digitRuns, ∃ before, ∃ form ∈ placeForms line column, ∃ after,
    cs = before ++ (form ++ after)

theorem mem_placeForms {line column form : List Char} :
    form ∈ placeForms line column ↔
      ∃ a ∈ gaps, ∃ b ∈ gaps, ∃ c ∈ gaps, ∃ d ∈ gaps,
        form = "Line:".toList ++ (a ++ (line ++ (b ++ ([','] ++
          (c ++ ("Column:".toList ++ (d ++ column))))))) := by
  simp only [placeForms, Language.mem_mul]
  constructor
  · rintro ⟨_, rfl, _, ⟨a, ha, _, ⟨_, rfl, _, ⟨b, hb, _, ⟨_, rfl, _, ⟨c, hc, _, ⟨_, rfl, _, ⟨d, hd, _, rfl, rfl⟩,
      rfl⟩, rfl⟩, rfl⟩, rfl⟩, rfl⟩, rfl⟩, rfl⟩
    exact ⟨a, ha, b, hb, c, hc, d, hd, rfl⟩
  · rintro ⟨a, ha, b, hb, c, hc, d, hd, rfl⟩
    exact ⟨_, rfl, _, ⟨a, ha, _, ⟨_, rfl, _, ⟨b, hb, _, ⟨_, rfl, _, ⟨c, hc, _, ⟨_, rfl, _, ⟨d, hd, _, rfl, rfl⟩,
      rfl⟩, rfl⟩, rfl⟩, rfl⟩, rfl⟩, rfl⟩, rfl⟩

/-! ## Single readers -/

theorem afterPrefix?_eq_some {start cs rest : List Char} :
    afterPrefix? start cs = some rest ↔ cs = start ++ rest := by
  rw [afterPrefix?]
  constructor
  · intro h
    split at h
    · rename_i hprefix
      obtain ⟨t, rfl⟩ := List.isPrefixOf_iff_prefix.1 hprefix
      rw [List.drop_left] at h
      rw [Option.some.inj h]
    · exact absurd h nofun
  · rintro rfl
    rw [if_pos (List.isPrefixOf_iff_prefix.2 (List.prefix_append _ _)), List.drop_left]

theorem digitRanges_apart_from_white_space : ∀ r ∈ digitRanges,
    0xA0 < r.1 ∧ (r.2 < 0x1680 ∨ 0x1680 < r.1) ∧ (r.2 < 0x2000 ∨ 0x3000 < r.1) := by decide

theorem isDecimalDigit_of_isWhiteSpace {c : Char} (h : isWhiteSpace c = true) : isDecimalDigit c = false := by
  have hblank : (9 ≤ c.toNat ∧ c.toNat ≤ 13 ∨ c.toNat = 0x20) ∨ c.toNat = 0x85 ∨ c.toNat = 0xA0 ∨
      c.toNat = 0x1680 ∨ 0x2000 ≤ c.toNat ∧ c.toNat ≤ 0x3000 := by
    simp only [isWhiteSpace, Bool.or_eq_true, Bool.and_eq_true, decide_eq_true_eq, beq_iff_eq] at h
    omega
  rw [isDecimalDigit]
  split
  · have hdigit : ¬ (48 ≤ c.toNat ∧ c.toNat ≤ 57) := by omega
    rw [Bool.eq_false_iff]
    intro hc
    simp only [Char.isDigit, Bool.and_eq_true, decide_eq_true_eq, UInt32.le_iff_toNat_le] at hc
    exact hdigit hc
  · rw [inRanges, List.any_eq_false]
    intro r hr hc
    have hapart := digitRanges_apart_from_white_space r hr
    simp only [Bool.and_eq_true, decide_eq_true_eq] at hc
    omega

theorem dropWhile_gap {w rest : List Char} {c : Char} (hw : w ∈ gaps) (hc : isWhiteSpace c = false) :
    (w ++ c :: rest).dropWhile isWhiteSpace = c :: rest := by
  rw [List.dropWhile_append_of_pos hw, List.dropWhile_cons_of_neg (by rw [hc]; exact Bool.false_ne_true)]

theorem takeWhile_mem_gaps (cs : List Char) : cs.takeWhile isWhiteSpace ∈ gaps :=
  fun _ hc => List.mem_takeWhile_imp hc

theorem afterPrefix?_dropWhile {start cs rest : List Char}
    (hstart : ∃ c more, start = c :: more ∧ isWhiteSpace c = false) :
    afterPrefix? start (cs.dropWhile isWhiteSpace) = some rest ↔ ∃ w ∈ gaps, cs = w ++ (start ++ rest) := by
  obtain ⟨c, more, rfl, hc⟩ := hstart
  rw [afterPrefix?_eq_some]
  constructor
  · intro h
    refine ⟨cs.takeWhile isWhiteSpace, takeWhile_mem_gaps cs, ?_⟩
    rw [← h, List.takeWhile_append_dropWhile]
  · rintro ⟨w, hw, rfl⟩
    exact dropWhile_gap hw hc

/-- The text does not begin with a digit. -/
def EndsRun (rest : List Char) : Prop := ∀ c more, rest = c :: more → isDecimalDigit c = false

theorem endsRun_dropWhile (cs : List Char) : EndsRun (cs.dropWhile isDecimalDigit) := by
  intro c more hmore
  have hne : cs.dropWhile isDecimalDigit ≠ [] := by
    rw [hmore]
    exact List.cons_ne_nil _ _
  have hhead := List.head_dropWhile_not isDecimalDigit hne
  simpa only [hmore, List.head_cons] using hhead

theorem digitRun?_eq_some {cs run rest : List Char} :
    digitRun? cs = some (run, rest) ↔
      run ∈ digitRuns ∧ EndsRun rest ∧ ∃ w ∈ gaps, cs = w ++ (run ++ rest) := by
  constructor
  · intro h
    simp only [digitRun?] at h
    split at h
    · exact absurd h nofun
    · rename_i hrun
      obtain ⟨rfl, rfl⟩ := Prod.mk.inj (Option.some.inj h)
      refine ⟨⟨?_, fun c hc => List.mem_takeWhile_imp hc⟩, endsRun_dropWhile _, cs.takeWhile isWhiteSpace,
        takeWhile_mem_gaps cs, ?_⟩
      · intro hnil
        rw [hnil] at hrun
        exact hrun rfl
      · rw [List.takeWhile_append_dropWhile, List.takeWhile_append_dropWhile]
  · rintro ⟨⟨hne, hdigits⟩, hrest, w, hw, rfl⟩
    have htake : rest.takeWhile isDecimalDigit = [] ∧ rest.dropWhile isDecimalDigit = rest := by
      cases rest with
      | nil => exact ⟨rfl, rfl⟩
      | cons c more =>
        have hc : ¬ isDecimalDigit c = true := by
          rw [hrest c more rfl]
          exact Bool.false_ne_true
        exact ⟨List.takeWhile_cons_of_neg hc, List.dropWhile_cons_of_neg hc⟩
    have hdrop : (w ++ (run ++ rest)).dropWhile isWhiteSpace = run ++ rest := by
      cases run with
      | nil => exact absurd rfl hne
      | cons c run =>
        refine dropWhile_gap hw (Bool.eq_false_iff.2 fun hc => ?_)
        have hdigit := hdigits c List.mem_cons_self
        rw [isDecimalDigit_of_isWhiteSpace hc] at hdigit
        exact Bool.false_ne_true hdigit
    simp only [digitRun?, hdrop]
    rw [List.takeWhile_append_of_pos hdigits, List.dropWhile_append_of_pos hdigits, htake.1, htake.2,
      List.append_nil, if_neg (by rwa [List.isEmpty_iff])]

/-! ## Reading places -/

theorem endsRun_gap {w rest : List Char} {c : Char} (hw : w ∈ gaps) (hc : isDecimalDigit c = false) :
    EndsRun (w ++ ([c] ++ rest)) := by
  intro first more h
  cases w with
  | nil =>
    obtain rfl := (List.cons.inj h).1
    exact hc
  | cons d w =>
    obtain rfl := (List.cons.inj h).1
    exact isDecimalDigit_of_isWhiteSpace (hw d List.mem_cons_self)

/-- A place is found at the beginning of a text if one is named there, and the digits of its column are taken
as far as they go. -/
theorem placeAt?_eq_some {cs line column : List Char} :
    placeAt? cs = some (line, column) ↔
      line ∈ digitRuns ∧ column ∈ digitRuns ∧
        ∃ form ∈ placeForms line column, ∃ rest, EndsRun rest ∧ cs = form ++ rest := by
  have hcomma : ∃ c more, [','] = c :: more ∧ isWhiteSpace c = false := ⟨_, _, rfl, by decide⟩
  have hword : ∃ c more, "Column:".toList = c :: more ∧ isWhiteSpace c = false := ⟨_, _, rfl, by decide⟩
  simp only [placeAt?, Option.bind_eq_bind, Option.bind_eq_some_iff, Option.pure_def, Option.some.injEq,
    Prod.exists, Prod.mk.injEq, mem_placeForms, @afterPrefix?_eq_some "Line:".toList,
    afterPrefix?_dropWhile hcomma, afterPrefix?_dropWhile hword, digitRun?_eq_some]
  constructor
  · rintro ⟨_, rfl, _, _, ⟨hline, -, a, ha, rfl⟩, _, ⟨b, hb, rfl⟩, _, ⟨c, hc, rfl⟩, _, rest,
      ⟨hcolumn, hrest, d, hd, rfl⟩, rfl, rfl⟩
    exact ⟨hline, hcolumn, _, ⟨a, ha, b, hb, c, hc, d, hd, rfl⟩, rest, hrest, by simp only [List.append_assoc]⟩
  · rintro ⟨hline, hcolumn, _, ⟨a, ha, b, hb, c, hc, d, hd, rfl⟩, rest, hrest, rfl⟩
    simp only [List.append_assoc]
    exact ⟨_, rfl, _, _, ⟨hline, endsRun_gap hb (by decide), a, ha, rfl⟩, _, ⟨b, hb, rfl⟩, _, ⟨c, hc, rfl⟩, _, rest,
      ⟨hcolumn, hrest, d, hd, rfl⟩, rfl, rfl⟩

theorem placeAt?_isSome_iff {cs : List Char} :
    (placeAt? cs).isSome ↔
      ∃ line ∈ digitRuns, ∃ column ∈ digitRuns, ∃ form ∈ placeForms line column, ∃ after, cs = form ++ after := by
  rw [Option.isSome_iff_exists]
  constructor
  · rintro ⟨⟨line, column⟩, h⟩
    obtain ⟨hline, hcolumn, form, hform, rest, -, rfl⟩ := placeAt?_eq_some.1 h
    exact ⟨line, hline, column, hcolumn, form, hform, rest, rfl⟩
  · rintro ⟨line, hline, column, ⟨hne, hcolumn⟩, form, hform, after, rfl⟩
    obtain ⟨a, ha, b, hb, c, hc, d, hd, rfl⟩ := mem_placeForms.1 hform
    refine ⟨(line, column ++ after.takeWhile isDecimalDigit), placeAt?_eq_some.2 ⟨hline, ⟨?_, ?_⟩, _,
      mem_placeForms.2 ⟨a, ha, b, hb, c, hc, d, hd, rfl⟩, after.dropWhile isDecimalDigit, ?_, ?_⟩⟩
    · exact List.append_ne_nil_of_left_ne_nil hne _
    · intro digit hdigit
      rcases List.mem_append.1 hdigit with hdigit | hdigit
      · exact hcolumn digit hdigit
      · exact List.mem_takeWhile_imp hdigit
    · exact endsRun_dropWhile after
    · simp only [List.append_assoc, List.takeWhile_append_dropWhile]

theorem firstPlace?_isSome_iff (cs : List Char) :
    (firstPlace? cs).isSome ↔ ∃ before rest, cs = before ++ rest ∧ (placeAt? rest).isSome := by
  induction cs with
  | nil =>
    rw [firstPlace?]
    constructor
    · exact fun h => ⟨[], [], rfl, h⟩
    · rintro ⟨before, rest, hcs, h⟩
      rwa [(List.append_eq_nil_iff.1 hcs.symm).2] at h
  | cons c cs ih =>
    rw [firstPlace?]
    cases hplace : placeAt? (c :: cs) with
    | some place => exact ⟨fun _ => ⟨[], c :: cs, rfl, by rw [hplace]; rfl⟩, fun _ => rfl⟩
    | none =>
      rw [ih]
      constructor
      · rintro ⟨before, rest, rfl, h⟩
        exact ⟨c :: before, rest, rfl, h⟩
      · rintro ⟨before, rest, hcs, h⟩
        cases before with
        | nil =>
          rw [List.nil_append] at hcs
          rw [← hcs, hplace] at h
          exact absurd h nofun
        | cons d before => exact ⟨before, rest, (List.cons.inj hcs).2, h⟩

/-- Reading finds a place in the texts that name one, and in no others. -/
theorem firstPlace?_isSome_iff_namesPlace (cs : List Char) : (firstPlace? cs).isSome ↔ NamesPlace cs := by
  rw [firstPlace?_isSome_iff]
  constructor
  · rintro ⟨before, rest, rfl, h⟩
    obtain ⟨line, hline, column, hcolumn, form, hform, after, rfl⟩ := placeAt?_isSome_iff.1 h
    exact ⟨line, hline, column, hcolumn, before, form, hform, after, rfl⟩
  · rintro ⟨line, hline, column, hcolumn, before, form, hform, after, rfl⟩
    exact ⟨before, _, rfl, placeAt?_isSome_iff.2 ⟨line, hline, column, hcolumn, form, hform, after, rfl⟩⟩

instance (cs : List Char) : Decidable (NamesPlace cs) :=
  decidable_of_iff _ (firstPlace?_isSome_iff_namesPlace cs)

/-! ## The appended place -/

/-- The form of a place ends with a digit and has no letter a in it. -/
theorem end_of_mem_placeForms {line column form : List Char} (hline : line ∈ digitRuns)
    (hcolumn : column ∈ digitRuns) (h : form ∈ placeForms line column) :
    'a' ∉ form ∧ ∃ d, form.getLast? = some d ∧ isDecimalDigit d = true := by
  have hgap {w : List Char} (hw : w ∈ gaps) : 'a' ∉ w := fun hmem => absurd (hw 'a' hmem) (by decide)
  have hdigits {run : List Char} (hrun : run ∈ digitRuns) : 'a' ∉ run :=
    fun hmem => absurd (hrun.2 'a' hmem) (by decide)
  obtain ⟨a, ha, b, hb, c, hc, d, hd, rfl⟩ := mem_placeForms.1 h
  constructor
  · simp only [List.mem_append, not_or]
    exact ⟨by decide, hgap ha, hdigits hline, hgap hb, by decide, hgap hc, by decide, hgap hd, hdigits hcolumn⟩
  · have hlast := List.getLast?_eq_some_getLast hcolumn.1
    refine ⟨column.getLast hcolumn.1, ?_, hcolumn.2 _ (List.getLast_mem _)⟩
    simp only [List.getLast?_append, hlast, Option.some_or]

/-- What is appended behind a blank and the letter a does not change where a place begins, nor which. -/
theorem placeAt?_append (cs tail : List Char) : placeAt? (cs ++ ' ' :: 'a' :: tail) = placeAt? cs := by
  have hblank : isDecimalDigit ' ' = false := by decide
  refine Option.ext fun place => ?_
  obtain ⟨line, column⟩ := place
  rw [placeAt?_eq_some, placeAt?_eq_some]
  refine and_congr_right fun hline => and_congr_right fun hcolumn => ?_
  constructor
  · rintro ⟨form, hform, rest, hrest, hcs⟩
    obtain ⟨ha, d, hlast, hd⟩ := end_of_mem_placeForms hline hcolumn hform
    rcases List.append_eq_append_iff.1 hcs with ⟨beyond, rfl, htail⟩ | ⟨more, rfl, rfl⟩
    · -- The form would end with the blank or go on with the letter.
      match beyond with
      | [] => exact ⟨cs, by rwa [List.append_nil] at hform, [], nofun, (List.append_nil cs).symm⟩
      | [c] =>
        obtain rfl := (List.cons.inj htail).1
        rw [List.getLast?_concat] at hlast
        rw [← Option.some.inj hlast, hblank] at hd
        exact absurd hd nofun
      | c :: e :: beyond =>
        obtain rfl := (List.cons.inj (List.cons.inj htail).2).1
        exact absurd (List.mem_append_right cs (by simp)) ha
    · exact ⟨form, hform, more, fun c rest hmore => hrest c _ (by rw [hmore]; rfl), rfl⟩
  · rintro ⟨form, hform, rest, hrest, rfl⟩
    refine ⟨form, hform, rest ++ ' ' :: 'a' :: tail, fun c more h => ?_, List.append_assoc _ _ _⟩
    cases rest with
    | nil => rwa [← (List.cons.inj h).1]
    | cons e rest => exact hrest c rest (by rw [(List.cons.inj h).1])

theorem firstPlace?_append (cs tail : List Char) :
    firstPlace? (cs ++ ' ' :: 'a' :: tail) = (firstPlace? cs).or (firstPlace? (' ' :: 'a' :: tail)) := by
  induction cs with
  | nil => rfl
  | cons c cs ih =>
    have hplace := placeAt?_append (c :: cs) tail
    rw [List.cons_append] at hplace
    rw [List.cons_append, firstPlace?, hplace, firstPlace?]
    cases placeAt? (c :: cs) with
    | some place => rfl
    | none => exact ih

theorem firstPlace?_of_not_mem {before : List Char} (h : 'L' ∉ before) (cs : List Char) :
    firstPlace? (before ++ cs) = firstPlace? cs := by
  induction before with
  | nil => rfl
  | cons c before ih =>
    rw [List.mem_cons, not_or] at h
    have hplace : placeAt? (c :: (before ++ cs)) = none := by
      refine Option.eq_none_iff_forall_not_mem.2 fun ⟨line, column⟩ hmem => ?_
      obtain ⟨-, -, form, hform, rest, -, hcs⟩ := placeAt?_eq_some.1 hmem
      obtain ⟨a, -, b, -, d, -, e, -, rfl⟩ := mem_placeForms.1 hform
      exact h.1 (List.cons.inj hcs).1.symm
    rw [List.cons_append, firstPlace?, hplace, ih h.2]

/-! ### Numbers -/

theorem isDecimalDigit_of_isDigit {c : Char} (h : c.isDigit = true) : isDecimalDigit c = true := by
  have hascii : c.toNat < 0x80 := by
    simp only [Char.isDigit, Bool.and_eq_true, decide_eq_true_eq, UInt32.le_iff_toNat_le] at h
    have hle : c.toNat ≤ 57 := h.2
    omega
  rw [isDecimalDigit, if_pos hascii, h]

theorem isDigit_of_mem_digits {n : Nat} {c : Char} (h : c ∈ (toString n).toList) : c.isDigit = true :=
  Nat.isDigit_of_mem_toDigits (by decide) (by decide) (Nat.toList_repr (n := n) ▸ h)

theorem digits_mem_digitRuns (n : Nat) : (toString n).toList ∈ digitRuns := by
  refine ⟨?_, fun c hc => isDecimalDigit_of_isDigit (isDigit_of_mem_digits hc)⟩
  have hdigits : (toString n).toList = Nat.toDigits 10 n := Nat.toList_repr
  rw [hdigits]
  exact Nat.toDigits_ne_nil

theorem natOfDigits?_eq {cs : List Char} (h : ∀ c ∈ cs, c.isDigit = true) :
    natOfDigits? cs = some (Nat.ofDigitChars 10 cs 0) := by
  have hfrom (n : Nat) : cs.foldl (fun acc c => acc.bind fun n =>
      if c.isDigit then some (10 * n + (c.toNat - '0'.toNat)) else none) (some n) =
        some (Nat.ofDigitChars 10 cs n) := by
    induction cs generalizing n with
    | nil => rfl
    | cons c cs ih =>
      rw [List.forall_mem_cons] at h
      rw [List.foldl_cons, Option.bind_some, if_pos h.1, ih h.2, Nat.ofDigitChars_cons]
  exact hfrom 0

theorem word64?_digits {n : Nat} (h : n < bound64) : word64? (toString n).toList = some n := by
  have hdigits : (toString n).toList = Nat.toDigits 10 n := Nat.toList_repr
  have hvalue : natOfDigits? (toString n).toList = some n := by
    rw [natOfDigits?_eq fun c hc => isDigit_of_mem_digits hc, hdigits,
      Nat.ofDigitChars_toDigits (by decide) (by decide)]
  rw [word64?, hvalue, Option.bind_some, if_pos h]

/-! ### Messages -/

theorem toList_described (l : Location) :
    l.described.toList = " at ".toList ++ ("Line:".toList ++ ([' '] ++ ((toString l.line).toList ++ ([] ++ ([','] ++
      ([' '] ++ ("Column:".toList ++ ([' '] ++ (toString l.column).toList)))))))) := by
  simp only [Location.described, String.toList_append, List.append_assoc]
  rfl

theorem firstPlace?_described (l : Location) :
    firstPlace? l.described.toList = some ((toString l.line).toList, (toString l.column).toList) := by
  have hblank : [' '] ∈ gaps := by
    intro c hc
    rw [List.mem_singleton.1 hc]
    decide
  have hform : "Line:".toList ++ ([' '] ++ ((toString l.line).toList ++ ([] ++ ([','] ++
      ([' '] ++ ("Column:".toList ++ ([' '] ++ (toString l.column).toList))))))) ∈
        placeForms (toString l.line).toList (toString l.column).toList :=
    mem_placeForms.2 ⟨[' '], hblank, [], nofun, [' '], hblank, [' '], hblank, rfl⟩
  have hplace := placeAt?_eq_some.2 ⟨digits_mem_digitRuns l.line, digits_mem_digitRuns l.column, _, hform, [], nofun,
    (List.append_nil _).symm⟩
  rw [toList_described, firstPlace?_of_not_mem (by decide)]
  change firstPlace? ('L' :: _) = _
  rw [firstPlace?]
  split
  · rename_i place h
    rw [← h]
    exact hplace
  · rename_i h
    exact absurd (h.symm.trans hplace) nofun

/-- The place of a rejection is the one that is appended to its wording, unless the wording names a place
itself. Then that place is reported, or none if its numbers cannot be held. -/
theorem position?_ofRejection_described {p : String} {l : Location} {r : Rejection}
    (hr : r = .lexical (p ++ l.described) ∨ ∃ left, r = .grammatical (p ++ l.described) left)
    (hline : l.line < bound64) (hcolumn : l.column < bound64) :
    (ParseError.ofRejection r).position? =
      if NamesPlace p.toList then positionIn? p else some ⟨l.line, l.column⟩ := by
  have hmessage : r.message = "sql parser error: " ++ (p ++ l.described) := by
    obtain rfl | ⟨left, rfl⟩ := hr <;> rfl
  have hfirst : firstPlace? r.message.toList = (firstPlace? p.toList).or (firstPlace? l.described.toList) := by
    obtain ⟨tail, htail⟩ : ∃ tail, l.described.toList = ' ' :: 'a' :: tail := ⟨_, toList_described l⟩
    rw [hmessage, String.toList_append, String.toList_append, firstPlace?_of_not_mem (by decide), htail,
      firstPlace?_append]
  have hnames := firstPlace?_isSome_iff_namesPlace p.toList
  have hposition : (ParseError.ofRejection r).position? = positionIn? r.message := rfl
  rw [hposition, positionIn?, hfirst]
  cases hplace : firstPlace? p.toList with
  | some place =>
    rw [if_pos (hnames.1 (by rw [hplace]; rfl)), positionIn?, hplace]
    rfl
  | none =>
    rw [if_neg fun hp => absurd (hnames.2 hp) (by rw [hplace]; exact Bool.false_ne_true), Option.none_or,
      firstPlace?_described]
    simp only [Option.bind_eq_bind, Option.bind_some, word64?_digits hline, word64?_digits hcolumn, Option.pure_def]

theorem position?_ofRejection_described_unfinished :
    (1 < bound64 ∧ 19 < bound64) ∧
      (ParseError.ofRejection
        (.grammatical ("Expected: end of statement, found: 'Line: 7,'" ++ (⟨1, 19⟩ : Location).described) 1)).position? =
          some ⟨1, 19⟩ := by
  refine ⟨by decide, ?_⟩
  rw [@position?_ofRejection_described _ ⟨1, 19⟩ _ (.inr ⟨1, rfl⟩) (by decide) (by decide)]
  decide +kernel

/-- A text that the user wrote can name another place than the one that is appended. -/
theorem not_forall_position?_ofRejection :
    ¬ ∀ (p : String) (l : Location) (left : Nat), l.line < bound64 → l.column < bound64 →
      (ParseError.ofRejection (.grammatical (p ++ l.described) left)).position? = some ⟨l.line, l.column⟩ := by
  intro h
  exact absurd (h "Expected: end of statement, found: 'Line: 7, Column: 8'" ⟨1, 19⟩ 1 (by decide) (by decide))
    (by decide +kernel)

end DialectConversion.Sql
