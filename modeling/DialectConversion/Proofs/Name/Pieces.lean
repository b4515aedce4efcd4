import DialectConversion.Name.Segments
import Mathlib.Data.List.TakeWhile

/-! Cutting dotted names. The cuts of a text depend on what comes before it only through the quotes that are
open there; so a text is cut in two at a dot outside quotes, and a text without such a dot stays whole. -/
namespace DialectConversion.Name
set_option autoImplicit false
open Text

/-! ## Pieces of joined texts -/

/-- The character that closes the quotes in which a text ends; the first argument is the one for the quotes
in which it begins. -/
def openAfter : Option Char → List Char → Option Char
  | q, [] => q
  | none, c :: rest => openAfter (closing? c) rest
  | some q, c :: rest => openAfter (if c = q then none else some q) rest

theorem openAfter_append (q : Option Char) (a b : List Char) :
    openAfter q (a ++ b) = openAfter (openAfter q a) b := by
  induction a generalizing q with
  | nil => rw [List.nil_append, openAfter]
  | cons c a ih =>
    cases q with
    | none => rw [List.cons_append, openAfter, openAfter, ih]
    | some q => rw [List.cons_append, openAfter, openAfter, ih]

def extendFirst (cs : List Char) : List (List Char) → List (List Char)
  | [] => [cs]
  | piece :: rest => (cs ++ piece) :: rest

/-- The pieces of a text and of its continuation, where the last one of the text goes on into the first one
of the continuation. -/
def glued : List (List Char) → List (List Char) → List (List Char)
  | [], more => more
  | [piece], more => extendFirst piece more
  | piece :: next :: rest, more => piece :: glued (next :: rest) more

theorem pushFirst_ne_nil (c : Char) (ps : List (List Char)) : pushFirst c ps ≠ [] := by
  cases ps <;> exact List.cons_ne_nil _ _

theorem pieces_ne_nil (q : Option Char) (cs : List Char) : pieces q cs ≠ [] := by
  match q, cs with
  | _, [] => rw [pieces]; exact List.cons_ne_nil _ _
  | none, c :: rest =>
    rw [pieces]
    split
    · exact List.cons_ne_nil _ _
    · exact pushFirst_ne_nil _ _
  | some q, c :: rest => rw [pieces]; exact pushFirst_ne_nil _ _

theorem extendFirst_nil {ps : List (List Char)} (h : ps ≠ []) : extendFirst [] ps = ps := by
  cases ps with
  | nil => exact absurd rfl h
  | cons piece rest => rfl

theorem glued_pushFirst (c : Char) {ps more : List (List Char)} (h : ps ≠ []) :
    glued (pushFirst c ps) more = pushFirst c (glued ps more) := by
  match ps, more with
  | [], _ => exact absurd rfl h
  | [_], [] => rfl
  | [_], _ :: _ => rfl
  | _ :: _ :: _, _ => rfl

theorem glued_cons (piece : List Char) {ps : List (List Char)} (more : List (List Char)) (h : ps ≠ []) :
    glued (piece :: ps) more = piece :: glued ps more := by
  cases ps with
  | nil => exact absurd rfl h
  | cons next rest => rfl

theorem glued_nil_cons {ps : List (List Char)} (more : List (List Char)) (h : ps ≠ []) :
    glued ps ([] :: more) = ps ++ more := by
  induction ps with
  | nil => exact absurd rfl h
  | cons piece rest ih =>
    cases rest with
    | nil => rw [glued, extendFirst, List.append_nil, List.singleton_append]
    | cons next rest =>
      rw [glued, ih (List.cons_ne_nil _ _)]
      rfl

/-- A text is cut as it is without its continuation, and the continuation as behind the quotes in which the
text ends. -/
theorem pieces_append (q : Option Char) (a b : List Char) :
    pieces q (a ++ b) = glued (pieces q a) (pieces (openAfter q a) b) := by
  induction a generalizing q with
  | nil => rw [List.nil_append, pieces, openAfter, glued, extendFirst_nil (pieces_ne_nil q b)]
  | cons c a ih =>
    cases q with
    | none =>
      rw [List.cons_append, pieces, pieces, openAfter]
      by_cases hdot : c = '.'
      · subst hdot
        have hclosing : closing? '.' = none := by decide
        rw [if_pos rfl, if_pos rfl, hclosing, ih, glued_cons _ _ (pieces_ne_nil _ _)]
      · rw [if_neg hdot, if_neg hdot, ih, glued_pushFirst c (pieces_ne_nil _ _)]
    | some q =>
      rw [List.cons_append, pieces, pieces, openAfter, ih, glued_pushFirst c (pieces_ne_nil _ _)]

theorem pieces_append_dot {q : Option Char} {a : List Char} (h : openAfter q a = none) (b : List Char) :
    pieces q (a ++ '.' :: b) = pieces q a ++ pieces none b := by
  rw [pieces_append, h, pieces, if_pos rfl, glued_nil_cons _ (pieces_ne_nil q a)]

theorem segmentsOf_append_dot {a : List Char} (h : openAfter none a = none) (b : List Char) :
    segmentsOf (a ++ '.' :: b) = segmentsOf a ++ segmentsOf b := by
  rw [segmentsOf, pieces_append_dot h, List.map_append, List.filter_append]
  rfl

/-! ## Texts that stay whole -/

/-- A text without a cut that begins in some quotes and ends in some quotes, or outside of any. -/
structure Uncut (q : Option Char) (cs : List Char) (q' : Option Char) : Prop where
  pieces_eq : pieces q cs = [cs]
  openAfter_eq : openAfter q cs = q'

namespace Uncut

theorem nil (q : Option Char) : Uncut q [] q where
  pieces_eq := by rw [pieces]
  openAfter_eq := by rw [openAfter]

theorem append {q r s : Option Char} {a b : List Char} (ha : Uncut q a r) (hb : Uncut r b s) :
    Uncut q (a ++ b) s where
  pieces_eq := by
    rw [pieces_append, ha.pieces_eq, ha.openAfter_eq, hb.pieces_eq, glued, extendFirst]
  openAfter_eq := by rw [openAfter_append, ha.openAfter_eq, hb.openAfter_eq]

theorem outside {c : Char} (hdot : c ≠ '.') : Uncut none [c] (closing? c) where
  pieces_eq := by rw [pieces, if_neg hdot, pieces, pushFirst]
  openAfter_eq := by rw [openAfter, openAfter]

theorem inside (q c : Char) : Uncut (some q) [c] (if c = q then none else some q) where
  pieces_eq := by rw [pieces, pieces, pushFirst]
  openAfter_eq := by rw [openAfter, openAfter]

/-- Outside quotes only dots cut and only the three opening marks open quotes. -/
theorem of_forall {cs : List Char} (h : ∀ c ∈ cs, c ≠ '.' ∧ closing? c = none) : Uncut none cs none := by
  induction cs with
  | nil => exact nil none
  | cons c cs ih =>
    rw [List.forall_mem_cons] at h
    obtain ⟨⟨hdot, hclosing⟩, hcs⟩ := h
    have hc := outside hdot
    rw [hclosing] at hc
    exact hc.append (ih hcs)

theorem of_isWhiteSpace {cs : List Char} (h : ∀ c ∈ cs, isWhiteSpace c = true) : Uncut none cs none := by
  refine of_forall fun c hc => ?_
  have hne (d : Char) (hd : isWhiteSpace d = false) : c ≠ d := by
    rintro rfl
    rw [h c hc] at hd
    exact absurd hd nofun
  refine ⟨hne '.' (by decide), ?_⟩
  rw [closing?, if_neg, if_neg (hne '[' (by decide))]
  rintro (hquote | hgrave)
  · exact hne '"' (by decide) hquote
  · exact hne graveAccent (by decide) hgrave

/-- Between two marks that close the quotes they open, a doubled mark closes and opens them again. -/
theorem doubled {mark : Char} (hmark : closing? mark = some mark) (hdot : mark ≠ '.') (cs : List Char) :
    Uncut (some mark) (Text.doubled mark cs) (some mark) := by
  induction cs with
  | nil => exact nil _
  | cons c cs ih =>
    have hc := inside mark c
    rw [Text.doubled]
    by_cases h : c = mark
    · subst h
      have hopen := outside hdot
      rw [hmark] at hopen
      rw [if_pos rfl] at hc ⊢
      exact hc.append (hopen.append ih)
    · rw [if_neg h] at hc ⊢
      exact hc.append ih

theorem quoted {mark : Char} (hmark : closing? mark = some mark) (hdot : mark ≠ '.') (cs : List Char) :
    Uncut none (mark :: (Text.doubled mark cs ++ [mark])) none := by
  have hopen := outside hdot
  have hclose := inside mark mark
  rw [hmark] at hopen
  rw [if_pos rfl] at hclose
  exact hopen.append ((doubled hmark hdot cs).append hclose)

end Uncut

/-! ## Surrounding white space -/

theorem trimmed_blanks {before after : List Char} (hbefore : ∀ c ∈ before, isWhiteSpace c = true)
    (hafter : ∀ c ∈ after, isWhiteSpace c = true) (cs : List Char) :
    trimmed (before ++ (cs ++ after)) = trimmed cs := by
  have hreverse : ∀ c ∈ after.reverse, isWhiteSpace c = true := fun c hc => hafter c (List.mem_reverse.1 hc)
  unfold trimmed
  rw [List.dropWhile_append_of_pos hbefore, List.dropWhile_append]
  split
  · -- All of the text is white space, and so is what follows.
    rename_i hblank
    rw [List.isEmpty_iff.1 hblank, List.dropWhile_eq_nil_iff.2 hafter]
  · rw [List.reverse_append, List.dropWhile_append_of_pos hreverse]

theorem segmentsOf_uncut {before cs after : List Char} (hbefore : ∀ c ∈ before, isWhiteSpace c = true)
    (hafter : ∀ c ∈ after, isWhiteSpace c = true) (hcs : Uncut none cs none) (htrimmed : trimmed cs = cs)
    (hne : cs ≠ []) : segmentsOf (before ++ (cs ++ after)) = [cs] := by
  have hwhole : Uncut none (before ++ (cs ++ after)) none :=
    (Uncut.of_isWhiteSpace hbefore).append (hcs.append (Uncut.of_isWhiteSpace hafter))
  rw [segmentsOf, hwhole.pieces_eq, List.map_singleton, trimmed_blanks hbefore hafter, htrimmed]
  cases cs with
  | nil => exact absurd rfl hne
  | cons c cs => rfl

end DialectConversion.Name
