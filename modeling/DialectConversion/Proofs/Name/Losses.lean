import DialectConversion.Proofs.Name.Cuts

/-! What is lost of a dotted name when it is cut: the dots between segments, and the white space next to such
a dot or to an end of the name. All else is left, in its order. -/
namespace DialectConversion.Name
set_option autoImplicit false
open Text (trimmed trim isWhiteSpace joined)

/-! ## What is lost -/

/-- Whether a character behind the given text is a dot outside quotes. -/
def separates (before : List Char) (c : Char) : Bool := c = '.' && (openAfter none before).isNone

/-- Whether only white space stands between the end of a text and a dot outside quotes in it, or its
beginning. -/
def isBehindSeparator (before : List Char) : Bool :=
  match before.reverse.dropWhile isWhiteSpace with
  | [] => true
  | c :: earlier => separates earlier.reverse c

/-- Whether only white space stands between the end of the first text and a dot outside quotes behind it, or
the end of the second text, which goes on behind the first one. -/
def isAheadOfSeparator (before after : List Char) : Bool :=
  match after.dropWhile isWhiteSpace with
  | [] => true
  | c :: _ => separates (before ++ after.takeWhile isWhiteSpace) c

/-- Whether a character between two texts is a dot outside quotes, or white space next to such a dot or to an
end of the whole. -/
def isLost (before : List Char) (c : Char) (after : List Char) : Bool :=
  separates before c ||
    isWhiteSpace c && (isBehindSeparator before || isAheadOfSeparator (before ++ [c]) after)

/-- What is not lost of the second text, which goes on behind the first one. -/
def remaining (before : List Char) : List Char → List Char
  | [] => []
  | c :: after =>
    if isLost before c after then remaining (before ++ [c]) after
    else c :: remaining (before ++ [c]) after

/-! ### Up to the next character that is no white space -/

theorem blank_or_first (cs : List Char) :
    (∀ c ∈ cs, isWhiteSpace c = true) ∨
      ∃ w d rest, cs = w ++ d :: rest ∧ (∀ c ∈ w, isWhiteSpace c = true) ∧ isWhiteSpace d = false := by
  induction cs with
  | nil => exact .inl (List.forall_mem_nil _)
  | cons c cs ih =>
    cases hc : isWhiteSpace c with
    | false => exact .inr ⟨[], c, cs, rfl, List.forall_mem_nil _, hc⟩
    | true =>
      rcases ih with hcs | ⟨w, d, rest, rfl, hw, hd⟩
      · exact .inl (List.forall_mem_cons.2 ⟨hc, hcs⟩)
      · exact .inr ⟨c :: w, d, rest, rfl, List.forall_mem_cons.2 ⟨hc, hw⟩, hd⟩

theorem blank_or_last (cs : List Char) :
    (∀ c ∈ cs, isWhiteSpace c = true) ∨
      ∃ rest d w, cs = rest ++ d :: w ∧ isWhiteSpace d = false ∧ ∀ c ∈ w, isWhiteSpace c = true := by
  rcases blank_or_first cs.reverse with hcs | ⟨w, d, rest, hcs, hw, hd⟩
  · exact .inl fun c hc => hcs c (List.mem_reverse.2 hc)
  · refine .inr ⟨rest.reverse, d, w.reverse, ?_, hd, fun c hc => hw c (List.mem_reverse.1 hc)⟩
    rw [← List.reverse_reverse cs, hcs, List.reverse_append, List.reverse_cons, List.append_assoc,
      List.singleton_append]

theorem isBehindSeparator_of_blank {before : List Char} (h : ∀ c ∈ before, isWhiteSpace c = true) :
    isBehindSeparator before = true := by
  rw [isBehindSeparator, List.dropWhile_eq_nil_iff.2 fun c hc => h c (List.mem_reverse.1 hc)]

theorem isBehindSeparator_of_last {rest w : List Char} {d : Char} (hd : isWhiteSpace d = false)
    (hw : ∀ c ∈ w, isWhiteSpace c = true) : isBehindSeparator (rest ++ d :: w) = separates rest d := by
  have hdrop : (rest ++ d :: w).reverse.dropWhile isWhiteSpace = d :: rest.reverse := by
    rw [List.reverse_append, List.reverse_cons, List.append_assoc, List.singleton_append,
      List.dropWhile_append_of_pos fun c hc => hw c (List.mem_reverse.1 hc), List.dropWhile_cons_of_neg (by simp [hd])]
  rw [isBehindSeparator, hdrop]
  show separates rest.reverse.reverse d = separates rest d
  rw [List.reverse_reverse]

theorem isAheadOfSeparator_of_blank {before after : List Char} (h : ∀ c ∈ after, isWhiteSpace c = true) :
    isAheadOfSeparator before after = true := by
  rw [isAheadOfSeparator, List.dropWhile_eq_nil_iff.2 h]

theorem isAheadOfSeparator_of_first {before w rest : List Char} {d : Char}
    (hw : ∀ c ∈ w, isWhiteSpace c = true) (hd : isWhiteSpace d = false) :
    isAheadOfSeparator before (w ++ d :: rest) = separates (before ++ w) d := by
  have hdrop : (w ++ d :: rest).dropWhile isWhiteSpace = d :: rest := by
    rw [List.dropWhile_append_of_pos hw, List.dropWhile_cons_of_neg (by simp [hd])]
  have htake : (w ++ d :: rest).takeWhile isWhiteSpace = w := by
    rw [List.takeWhile_append_of_pos hw, List.takeWhile_cons_of_neg (by simp [hd]), List.append_nil]
  rw [isAheadOfSeparator, hdrop, htake]

/-! ### Behind a cut -/

theorem separates_dot {before : List Char} (h : openAfter none before = none) : separates before '.' = true := by
  rw [separates, h]
  rfl

theorem separates_behind_cut {b : List Char} (hb : openAfter none b = none) (x : List Char) (c : Char) :
    separates (b ++ '.' :: x) c = separates x c := by
  have hopen : openAfter none (b ++ '.' :: x) = openAfter none x := by
    have hclosing : closing? '.' = none := by decide
    rw [openAfter_append, hb, openAfter, hclosing]
  rw [separates, hopen, separates]

theorem isBehindSeparator_behind_cut {b : List Char} (hb : openAfter none b = none) (x : List Char) :
    isBehindSeparator (b ++ '.' :: x) = isBehindSeparator x := by
  rcases blank_or_last x with hx | ⟨rest, d, w, rfl, hd, hw⟩
  · rw [isBehindSeparator_of_blank hx, isBehindSeparator_of_last (by decide) hx, separates_dot hb]
  · rw [← List.cons_append, ← List.append_assoc, isBehindSeparator_of_last hd hw,
      isBehindSeparator_of_last hd hw, separates_behind_cut hb]

theorem isAheadOfSeparator_behind_cut {b : List Char} (hb : openAfter none b = none) (x after : List Char) :
    isAheadOfSeparator (b ++ '.' :: x) after = isAheadOfSeparator x after := by
  rcases blank_or_first after with hafter | ⟨w, d, rest, rfl, hw, hd⟩
  · rw [isAheadOfSeparator_of_blank hafter, isAheadOfSeparator_of_blank hafter]
  · rw [isAheadOfSeparator_of_first hw hd, isAheadOfSeparator_of_first hw hd, List.append_assoc,
      List.cons_append, separates_behind_cut hb]

/-- What is lost behind a cut does not depend on what is in front of the cut. -/
theorem remaining_behind_cut {b : List Char} (hb : openAfter none b = none) (x cs : List Char) :
    remaining (b ++ '.' :: x) cs = remaining x cs := by
  induction cs generalizing x with
  | nil => rw [remaining, remaining]
  | cons c cs ih =>
    have hlost : isLost (b ++ '.' :: x) c cs = isLost x c cs := by
      rw [isLost, isLost, separates_behind_cut hb, isBehindSeparator_behind_cut hb, List.append_assoc,
        List.cons_append, isAheadOfSeparator_behind_cut hb]
    rw [remaining, remaining, hlost, List.append_assoc, List.cons_append, ih]

/-! ### In a text that is not cut -/

/-- What can stand behind a text that is not cut: nothing, or a dot outside quotes and what follows it. -/
def GoesOn (q : Option Char) (tail : List Char) : Prop := tail = [] ∨ q = none ∧ ∃ b, tail = '.' :: b

variable {q : Option Char} {tail : List Char}

theorem Uncut.separates_eq_false {a b : List Char} {c : Char} (h : Uncut none (a ++ c :: b) q) :
    separates a c = false := by
  rw [separates, Bool.and_eq_false_iff]
  by_cases hdot : c = '.'
  · subst hdot
    right
    rw [Option.isNone_eq_false_iff, Option.isSome_iff_ne_none]
    exact h.openAfter_ne_none
  · exact .inl (decide_eq_false hdot)

theorem all_eq_false {a b : List Char} {d : Char} (hd : isWhiteSpace d = false) :
    (a ++ d :: b).all isWhiteSpace = false := by
  rw [List.all_append, List.all_cons, hd, Bool.false_and, Bool.and_false]

theorem Uncut.isBehindSeparator_eq {a b : List Char} (h : Uncut none (a ++ b) q) :
    isBehindSeparator a = a.all isWhiteSpace := by
  rcases blank_or_last a with ha | ⟨rest, d, w, rfl, hd, hw⟩
  · rw [isBehindSeparator_of_blank ha, List.all_eq_true.2 ha]
  · rw [List.append_assoc, List.cons_append] at h
    rw [isBehindSeparator_of_last hd hw, h.separates_eq_false, all_eq_false hd]

theorem Uncut.isAheadOfSeparator_eq {a b : List Char} (h : Uncut none (a ++ b) q) (htail : GoesOn q tail) :
    isAheadOfSeparator a (b ++ tail) = b.all isWhiteSpace := by
  rcases blank_or_first b with hb | ⟨w, d, rest, rfl, hw, hd⟩
  · rw [List.all_eq_true.2 hb]
    rcases htail with rfl | ⟨rfl, rest, rfl⟩
    · rw [List.append_nil, isAheadOfSeparator_of_blank hb]
    · rw [isAheadOfSeparator_of_first hb (by decide), separates_dot h.openAfter_eq]
  · rw [← List.append_assoc] at h
    rw [List.append_assoc, List.cons_append, isAheadOfSeparator_of_first hw hd, h.separates_eq_false,
      all_eq_false hd]

theorem Uncut.isLost_eq {a b : List Char} {c : Char} (h : Uncut none (a ++ c :: b) q) (htail : GoesOn q tail) :
    isLost a c (b ++ tail) = (isWhiteSpace c && (a.all isWhiteSpace || b.all isWhiteSpace)) := by
  have hbehind := h.isBehindSeparator_eq
  have hstep : Uncut none ((a ++ [c]) ++ b) q := by rwa [List.append_assoc, List.singleton_append]
  rw [isLost, h.separates_eq_false, hbehind, hstep.isAheadOfSeparator_eq htail, Bool.false_or]

theorem rdropWhile_cons (p : Char → Bool) (c : Char) (cs : List Char) :
    (c :: cs).rdropWhile p = if p c && cs.all p then [] else c :: cs.rdropWhile p := by
  unfold List.rdropWhile
  rw [List.reverse_cons, List.dropWhile_append]
  cases hall : cs.all p with
  | true =>
    have hcs : cs.reverse.dropWhile p = [] := by
      rwa [List.dropWhile_eq_nil_iff, ← List.all_eq_true, List.all_reverse]
    rw [hcs, List.isEmpty_nil, if_pos rfl, Bool.and_true, List.dropWhile_cons]
    split <;> rfl
  | false =>
    have hcs : (cs.reverse.dropWhile p).isEmpty = false := by
      rw [List.isEmpty_eq_false_iff]
      intro hnil
      rw [List.dropWhile_eq_nil_iff, ← List.all_eq_true, List.all_reverse, hall] at hnil
      exact Bool.false_ne_true hnil
    rw [hcs, if_neg Bool.false_ne_true, Bool.and_false, if_neg Bool.false_ne_true, List.reverse_append]
    rfl

theorem Uncut.remaining_inside {a b : List Char} (h : Uncut none (a ++ b) q) (htail : GoesOn q tail)
    (ha : a.all isWhiteSpace = false) :
    remaining a (b ++ tail) = b.rdropWhile isWhiteSpace ++ remaining (a ++ b) tail := by
  induction b generalizing a with
  | nil => rw [List.nil_append, List.append_nil, List.rdropWhile_nil, List.nil_append]
  | cons c b ih =>
    have hstep : Uncut none ((a ++ [c]) ++ b) q := by rwa [List.append_assoc, List.singleton_append]
    have hall : (a ++ [c]).all isWhiteSpace = false := by rw [List.all_append, ha, Bool.false_and]
    rw [List.cons_append, remaining, h.isLost_eq htail, ih hstep hall, ha, Bool.false_or, rdropWhile_cons,
      List.append_assoc, List.singleton_append]
    split
    · rename_i hblank
      have hb : b.rdropWhile isWhiteSpace = [] := by
        rw [List.rdropWhile_eq_nil_iff]
        exact List.all_eq_true.1 (Bool.and_eq_true_iff.1 hblank).2
      rw [hb]
    · rw [List.cons_append]

theorem Uncut.remaining_eq {a b : List Char} (h : Uncut none (a ++ b) q) (htail : GoesOn q tail)
    (ha : a.all isWhiteSpace = true) : remaining a (b ++ tail) = trimmed b ++ remaining (a ++ b) tail := by
  induction b generalizing a with
  | nil => rw [List.nil_append, List.append_nil]; rfl
  | cons c b ih =>
    have hstep : Uncut none ((a ++ [c]) ++ b) q := by rwa [List.append_assoc, List.singleton_append]
    rw [List.cons_append, remaining, h.isLost_eq htail, ha, Bool.true_or, Bool.and_true]
    cases hc : isWhiteSpace c with
    | true =>
      have hall : (a ++ [c]).all isWhiteSpace = true := by
        rw [List.all_append, ha, List.all_cons, hc]
        rfl
      have htrimmed : trimmed (c :: b) = trimmed b := by
        unfold trimmed
        rw [List.dropWhile_cons_of_pos hc]
      rw [if_pos rfl, ih hstep hall, htrimmed, List.append_assoc, List.singleton_append]
    | false =>
      have hall : (a ++ [c]).all isWhiteSpace = false := all_eq_false hc
      have htrimmed : trimmed (c :: b) = c :: b.rdropWhile isWhiteSpace := by
        have hdrop : (c :: b).dropWhile isWhiteSpace = c :: b :=
          List.dropWhile_cons_of_neg (by rw [hc]; exact Bool.false_ne_true)
        have hright : trimmed (c :: b) = (c :: b).rdropWhile isWhiteSpace := by
          unfold trimmed
          rw [hdrop]
          rfl
        rw [hright, rdropWhile_cons, hc, Bool.false_and, if_neg Bool.false_ne_true]
      rw [if_neg Bool.false_ne_true, hstep.remaining_inside htail hall, htrimmed, List.cons_append,
        List.append_assoc, List.singleton_append]

/-- Segments are what remains of a text when the dots between them are lost with the white space around. -/
theorem flatten_segmentsOf (cs : List Char) : (segmentsOf cs).flatten = remaining [] cs := by
  have hwhole {cs : List Char} {q : Option Char} (h : Uncut none cs q) : (segmentsOf cs).flatten = trimmed cs := by
    rw [segmentsOf_whole h]
    split
    · rename_i hblank
      rw [hblank, List.flatten_nil]
    · exact List.append_nil _
  induction cs using cutInduction with
  | whole cs q h =>
    have hremaining := h.remaining_eq (a := []) (.inl rfl) rfl
    rw [List.append_nil, List.nil_append, remaining, List.append_nil] at hremaining
    rw [hwhole h, hremaining]
  | cut a b ha ih =>
    have hdot : isLost a '.' b = true := by rw [isLost, separates_dot ha.openAfter_eq, Bool.true_or]
    have htail : GoesOn none ('.' :: b) := .inr ⟨rfl, b, rfl⟩
    have hremaining := ha.remaining_eq (a := []) htail rfl
    rw [hremaining, List.nil_append, remaining, hdot, if_pos rfl, remaining_behind_cut ha.openAfter_eq,
      segmentsOf_append_dot ha.openAfter_eq, List.flatten_append, hwhole ha, ih]

/-! ## Dotted names -/

/-- The segments of a name are not blank, have no white space around them and are not cut again, neither
alone nor joined by dots. Put together they are what remains of the name when the dots outside quotes are
lost, and the white space next to these dots and to the ends. A name that ends outside quotes and another
one, with a dot between them, have the segments of both. -/
theorem splitSegments_loses_only_separators (s : String) :
    (∀ g ∈ splitSegments s, trim g ≠ "" ∧ trim g = g ∧ splitSegments g = [g]) ∧
      splitSegments (joined "." (splitSegments s)) = splitSegments s ∧
      String.join (splitSegments s) = String.ofList (remaining [] s.toList) ∧
      (openAfter none s.toList = none →
        ∀ b, splitSegments (s ++ "." ++ b) = splitSegments s ++ splitSegments b) := by
  have hdot : ".".toList = ['.'] := by decide
  refine ⟨fun g hg => ?_, ?_, ?_, fun hclosed b => ?_⟩
  · have hmem : g.toList ∈ segmentsOf s.toList := by
      rw [← map_toList_splitSegments]
      exact List.mem_map_of_mem hg
    obtain ⟨q, hsegment⟩ := segmentsOf_isSegment s.toList g.toList hmem
    have htrim : trim g = g := by rw [trim, hsegment.trimmed_eq, String.ofList_toList]
    refine ⟨?_, htrim, ?_⟩
    · rw [htrim]
      intro hempty
      exact hsegment.ne_nil (congrArg String.toList hempty)
    · rw [splitSegments, hsegment.segmentsOf_eq, List.map_singleton, String.ofList_toList]
  · rw [splitSegments, toList_joined, map_toList_splitSegments, hdot, segmentsOf_intercalate_segmentsOf]
    rfl
  · apply String.toList_injective
    rw [String.toList_join, List.flatMap_def, map_toList_splitSegments, flatten_segmentsOf,
      String.toList_ofList]
  · rw [splitSegments, String.toList_append, String.toList_append, hdot, List.append_assoc,
      List.singleton_append, segmentsOf_append_dot hclosed, List.map_append]
    rfl

theorem splitSegments_loses_only_separators_quoted :
    let s := "\t[a.b] .. \"c\"\".\"x "
    let g := "[a.b]"
    g ∈ splitSegments s ∧ openAfter none s.toList = none ∧
      (trim g ≠ "" ∧ trim g = g ∧ splitSegments g = [g]) ∧
      String.join (splitSegments s) = "[a.b]\"c\"\".\"x" ∧
      ∀ b, splitSegments (s ++ "." ++ b) = splitSegments s ++ splitSegments b := by
  intro s g
  have hg : g ∈ splitSegments s := by decide +kernel
  have hclosed : openAfter none s.toList = none := by decide +kernel
  obtain ⟨hsegments, -, hremaining, happend⟩ := splitSegments_loses_only_separators s
  have hkept : String.ofList (remaining [] s.toList) = "[a.b]\"c\"\".\"x" := by decide +kernel
  exact ⟨hg, hclosed, hsegments g hg, hremaining.trans hkept, happend hclosed⟩

end DialectConversion.Name
