import DialectConversion.Text.Basic

/-! Texts with separators in front of them, told by the text that they make up. Each text has to show where it
ends, which it does if it does not hold the separator. -/
namespace DialectConversion.Text
set_option autoImplicit false

/-- A text is split in only one way in front of a character that its beginning does not hold. -/
theorem append_inj_of_not_mem {mark : Char} {a b s t : List Char} (ha : mark ∉ a) (hb : mark ∉ b)
    (hs : ∀ c ∈ s.head?, c = mark) (ht : ∀ c ∈ t.head?, c = mark) (h : a ++ s = b ++ t) :
    a = b ∧ s = t := by
  induction a generalizing b with
  | nil =>
    cases b with
    | nil => exact ⟨rfl, h⟩
    | cons c b =>
      rw [List.nil_append] at h
      have hc : c = mark := hs c (by rw [h]; rfl)
      exact absurd (hc ▸ List.mem_cons_self) hb
  | cons c a ih =>
    cases b with
    | nil =>
      rw [List.nil_append] at h
      have hc : c = mark := ht c (by rw [← h]; rfl)
      exact absurd (hc ▸ List.mem_cons_self) ha
    | cons d b =>
      obtain ⟨rfl, htail⟩ := List.cons.inj h
      rw [List.mem_cons, not_or] at ha hb
      obtain ⟨rfl, hrest⟩ := ih ha.2 hb.2 htail
      exact ⟨rfl, hrest⟩

theorem append_cons_inj_of_not_mem {mark : Char} {a b s t : List Char} (ha : mark ∉ a) (hb : mark ∉ b)
    (h : a ++ mark :: s = b ++ mark :: t) : a = b ∧ s = t := by
  have hhead (rest : List Char) : ∀ c ∈ (mark :: rest).head?, c = mark := fun c hc => (Option.some.inj hc).symm
  obtain ⟨hbefore, hafter⟩ := append_inj_of_not_mem ha hb (hhead s) (hhead t) h
  exact ⟨hbefore, (List.cons.inj hafter).2⟩

/-- A run of one character ends where another character or nothing follows. -/
theorem replicate_append_inj {c : Char} {n m : Nat} {s t : List Char} (hs : c ∉ s.head?) (ht : c ∉ t.head?)
    (h : List.replicate n c ++ s = List.replicate m c ++ t) : n = m ∧ s = t := by
  induction n generalizing m with
  | zero =>
    cases m with
    | zero => exact ⟨rfl, h⟩
    | succ m =>
      rw [List.replicate_zero, List.nil_append] at h
      exact absurd (by rw [h]; rfl) hs
  | succ n ih =>
    cases m with
    | zero =>
      rw [List.replicate_zero, List.nil_append] at h
      exact absurd (by rw [← h]; rfl) ht
    | succ m =>
      rw [List.replicate_succ, List.replicate_succ, List.cons_append, List.cons_append] at h
      obtain ⟨rfl, hrest⟩ := ih (List.cons.inj h).2
      exact ⟨rfl, hrest⟩

variable {separator : String} {mark : Char} (hmark : separator.toList = [mark])

include hmark

theorem toList_trailed_cons (s : String) (rest : List String) :
    (trailed separator (s :: rest)).toList = mark :: (s.toList ++ (trailed separator rest).toList) := by
  rw [trailed, String.toList_append, String.toList_append, hmark, List.append_assoc]
  rfl

theorem head?_toList_trailed (texts : List String) :
    ∀ c ∈ (trailed separator texts).toList.head?, c = mark := by
  cases texts with
  | nil => exact fun c hc => nomatch hc
  | cons s rest =>
    rw [toList_trailed_cons hmark]
    exact fun c hc => (Option.some.inj hc).symm

theorem mem_toList_trailed {texts : List String} {c : Char} (h : c ∈ (trailed separator texts).toList) :
    c = mark ∨ ∃ s ∈ texts, c ∈ s.toList := by
  induction texts with
  | nil => exact absurd h List.not_mem_nil
  | cons s rest ih =>
    rw [toList_trailed_cons hmark, List.mem_cons, List.mem_append] at h
    rcases h with hc | hfirst | hrest
    · exact .inl hc
    · exact .inr ⟨s, List.mem_cons_self, hfirst⟩
    · exact (ih hrest).imp id fun ⟨t, ht, hc⟩ => ⟨t, List.mem_cons_of_mem s ht, hc⟩

theorem trailed_cons_ne_empty (s : String) (rest : List String) : trailed separator (s :: rest) ≠ "" := by
  intro h
  have hchars := congrArg String.toList h
  rw [toList_trailed_cons hmark] at hchars
  cases hchars

section
variable {α γ : Type} {f : α → String} {g : α → γ} {xs ys : List α}

/-- If every text tells something of what it stands for, and where it ends, in front of a separator or of nothing,
then texts behind separators tell it of all of them. -/
theorem map_eq_of_trailed_eq
    (hfirst : ∀ x ∈ xs, ∀ y ∈ ys, ∀ s t : List Char, (∀ c ∈ s.head?, c = mark) → (∀ c ∈ t.head?, c = mark) →
      (f x).toList ++ s = (f y).toList ++ t → g x = g y ∧ s = t)
    (h : trailed separator (xs.map f) = trailed separator (ys.map f)) : xs.map g = ys.map g := by
  induction xs generalizing ys with
  | nil =>
    cases ys with
    | nil => rfl
    | cons y ys => exact absurd h.symm (trailed_cons_ne_empty hmark (f y) (ys.map f))
  | cons x xs ih =>
    cases ys with
    | nil => exact absurd h (trailed_cons_ne_empty hmark (f x) (xs.map f))
    | cons y ys =>
      have hchars := congrArg String.toList h
      rw [List.map_cons, List.map_cons, toList_trailed_cons hmark, toList_trailed_cons hmark] at hchars
      obtain ⟨hxy, hrest⟩ := hfirst x List.mem_cons_self y List.mem_cons_self _ _
        (head?_toList_trailed hmark _) (head?_toList_trailed hmark _) (List.cons.inj hchars).2
      have hmore := ih (fun x' hx' y' hy' => hfirst x' (List.mem_cons_of_mem x hx') y' (List.mem_cons_of_mem y hy'))
        (String.toList_injective hrest)
      rw [List.map_cons, List.map_cons, hxy, hmore]

theorem map_eq_of_trailed_eq_of_not_mem (hxs : ∀ x ∈ xs, mark ∉ (f x).toList)
    (hys : ∀ y ∈ ys, mark ∉ (f y).toList) (htell : ∀ x ∈ xs, ∀ y ∈ ys, f x = f y → g x = g y)
    (h : trailed separator (xs.map f) = trailed separator (ys.map f)) : xs.map g = ys.map g := by
  refine map_eq_of_trailed_eq hmark (fun x hx y hy s t hs ht heq => ?_) h
  obtain ⟨htext, hrest⟩ := append_inj_of_not_mem (hxs x hx) (hys y hy) hs ht heq
  exact ⟨htell x hx y hy (String.toList_injective htext), hrest⟩

end

end DialectConversion.Text
