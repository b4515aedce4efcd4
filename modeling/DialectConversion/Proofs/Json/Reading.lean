import DialectConversion.Proofs.Json.Written

/-! What readers make of written forms. A reader that meets a word of a language comes to a value and
leaves what stands behind the word, or it stops because too many containers are open; white space in front
of the word does not matter. Readers of containers come to what their parts come to. -/
namespace DialectConversion.Json.Reader
set_option autoImplicit false

variable {α β σ : Type}

/-! ## Outcomes -/

/-- A reader comes to a value and leaves the given rest, or to none because containers are open too
deeply. -/
def Gives (r : Reader α) (cs : List Char) (a? : Option α) (rest : List Char) : Prop :=
  match a? with
  | some a => r cs = .ok (a, rest)
  | none => ∃ fault, r cs = .error fault ∧ fault.cause = .malformed .nestedTooDeeply

theorem bind_ok {r : Reader α} {f : α → Reader β} {cs mid : List Char} {a : α} (h : r cs = .ok (a, mid)) :
    (r >>= f) cs = f a mid := by
  show (r cs >>= fun p => f p.1 p.2) = f a mid
  rw [h]
  rfl

theorem bind_error {r : Reader α} {f : α → Reader β} {cs : List Char} {fault : Fault}
    (h : r cs = .error fault) : (r >>= f) cs = .error fault := by
  show (r cs >>= fun p => f p.1 p.2) = .error fault
  rw [h]
  rfl

namespace Gives

variable {r : Reader α} {a? : Option α} {cs mid rest : List Char}

theorem pure (a : α) (cs : List Char) : Gives (Pure.pure a : Reader α) cs (some a) cs := rfl

theorem tooDeep (cs rest : List Char) : Gives (tooDeep : Reader α) cs none rest := ⟨_, rfl, rfl⟩

theorem bind {f : α → Reader β} {b? : α → Option β} (hr : r.Gives cs a? mid)
    (hf : ∀ a, a? = some a → (f a).Gives mid (b? a) rest) : (r >>= f).Gives cs (a?.bind b?) rest := by
  cases a? with
  | none =>
    obtain ⟨fault, hfault, hcause⟩ := hr
    exact ⟨fault, bind_error hfault, hcause⟩
  | some a =>
    have hnext := hf a rfl
    unfold Gives at hnext ⊢
    rw [Option.bind_some, bind_ok hr]
    exact hnext

theorem after {f : α → Reader β} {b? : Option β} {a : α} (hr : r cs = .ok (a, mid))
    (hf : (f a).Gives mid b? rest) : (r >>= f).Gives cs b? rest := by
  have hstep : r.Gives cs (some a) mid := hr
  exact hstep.bind fun _ h => Option.some.inj h ▸ hf

theorem map (hr : r.Gives cs a? rest) (f : α → β) : (f <$> r).Gives cs (a?.map f) rest := by
  rw [map_eq_pure_bind, Option.map_eq_bind]
  exact hr.bind fun a _ => pure (f a) rest

end Gives

/-- A reader that meets a word of the language comes to the value, or to none, and leaves what stands
behind the word. -/
def Reads (r : Reader α) (p : Language Char) (a? : Option α) : Prop :=
  ∀ ws ∈ blanks, ∀ w ∈ p, ∀ rest, r.Gives (ws ++ (w ++ rest)) a? rest

/-- A reader that meets items in front of a bracket comes to the value, or to none, and leaves the
bracket. -/
def ReadsItems (r : Reader α) (closing : Char) (ps : List (Language Char)) (a? : Option α) : Prop :=
  ∀ w ∈ items ps, ∀ rest, r.Gives (w ++ closing :: rest) a? (closing :: rest)

theorem peek?_eq {ws : List Char} {c : Char} (hws : ws ∈ blanks) (hc : isBlank c = false)
    (rest : List Char) : peek? (ws ++ c :: rest) = .ok (some c, c :: rest) := by
  have hskip : (ws ++ c :: rest).dropWhile isBlank = c :: rest := by
    rw [List.dropWhile_append_of_pos hws, List.dropWhile_cons_of_neg (by simp [hc])]
  rw [peek?, hskip]
  rfl

/-- All words start with the given character. -/
def StartsWith (c : Char) (p : Language Char) : Prop := ∀ w ∈ p, ∃ tail, w = c :: tail

theorem startsWith_enclosed (opening closing : Char) (ps : List (Language Char)) :
    StartsWith opening (enclosed opening closing ps) := by
  intro w hw
  obtain ⟨inside, _, rfl⟩ := mem_enclosed.1 hw
  exact ⟨_, rfl⟩

theorem startsWith_quoted (s : String) : StartsWith '"' {(quoted s).toList} := by
  rintro _ rfl
  exact ⟨_, String.toList_ofList⟩

/-- Looking at the first character of a word before it is read makes no difference. -/
theorem reads_peek {c : Char} (hblank : isBlank c = false) {p : Language Char} (hp : StartsWith c p)
    {next : Option Char → Reader α} {a? : Option α} (h : (next (some c)).Reads p a?) :
    Reads (peek? >>= next) p a? := by
  intro ws hws w hw rest
  have hword := h [] nil_mem_blanks w hw rest
  obtain ⟨tail, rfl⟩ := hp w hw
  exact .after (peek?_eq hws hblank _) hword

/-! ## Loops -/

namespace Gives

variable {step : σ → Reader (σ ⊕ α)} {n : Nat} {s : σ} {a? : Option α} {cs mid rest : List Char}

theorem loop_done {a : α} (h : step s cs = .ok (.inr a, rest)) :
    (loop step (n + 1) s).Gives cs (some a) rest :=
  after h (pure a rest)

theorem loop_next {s' : σ} (h : step s cs = .ok (.inl s', mid))
    (hnext : (loop step n s').Gives mid a? rest) : (loop step (n + 1) s).Gives cs a? rest :=
  after h hnext

theorem loop_stop (h : (step s).Gives cs none mid) : (loop step (n + 1) s).Gives cs none rest := by
  obtain ⟨fault, hfault, hcause⟩ := h
  exact ⟨fault, bind_error hfault, hcause⟩

end Gives

/-! ## Strings -/

theorem hexValue?_hexDigit {n : Nat} (h : n < 16) : hexValue? (hexDigit n) = some n := by
  have hall : ∀ i : Fin 16, hexValue? (hexDigit i) = some i.val := by decide
  exact hall ⟨n, h⟩

theorem length_le_utf8ByteSize_ofList (cs : List Char) : cs.length ≤ (String.ofList cs).utf8ByteSize := by
  induction cs with
  | nil => exact Nat.zero_le _
  | cons c cs ih =>
    have hc : 0 < c.utf8Size := c.utf8Size_pos
    rw [String.ofList_cons, String.utf8ByteSize_append, String.utf8ByteSize_singleton, List.length_cons]
    omega

theorem fourHexDigits_eq {d₁ d₂ d₃ d₄ : Char} {n₁ n₂ n₃ n₄ : Nat} (h₁ : hexValue? d₁ = some n₁)
    (h₂ : hexValue? d₂ = some n₂) (h₃ : hexValue? d₃ = some n₃) (h₄ : hexValue? d₄ = some n₄)
    (rest : List Char) :
    fourHexDigits (d₁ :: d₂ :: d₃ :: d₄ :: rest) =
      .ok (((n₁ * 16 + n₂) * 16 + n₃) * 16 + n₄, rest) := by
  have hsize : ¬(String.ofList [d₁, d₂, d₃, d₄]).utf8ByteSize < 4 :=
    Nat.not_lt.2 (length_le_utf8ByteSize_ofList [d₁, d₂, d₃, d₄])
  have hvalues : [d₁, d₂, d₃, d₄].mapM hexValue? = some [n₁, n₂, n₃, n₄] := by
    simp [h₁, h₂, h₃, h₄]
  simp only [fourHexDigits, List.take_succ_cons, List.take_zero, List.drop_succ_cons, List.drop_zero,
    if_neg hsize, hvalues]

theorem hexEscape_control {c : Char} (h : c.toNat < 0x20) (rest : List Char) :
    hexEscape ('0' :: '0' :: hexDigit (c.toNat / 16) :: hexDigit (c.toNat % 16) :: rest) =
      .ok (c, rest) := by
  have hzero : hexValue? '0' = some 0 := rfl
  have hhigh : hexValue? (hexDigit (c.toNat / 16)) = some (c.toNat / 16) := hexValue?_hexDigit (by omega)
  have hlow : hexValue? (hexDigit (c.toNat % 16)) = some (c.toNat % 16) := hexValue?_hexDigit (by omega)
  have hdigits := fourHexDigits_eq hzero hzero hhigh hlow rest
  have hvalue : ((0 * 16 + 0) * 16 + c.toNat / 16) * 16 + c.toNat % 16 = c.toNat := by omega
  rw [hvalue] at hdigits
  rw [hexEscape, bind_ok hdigits, if_neg (by omega), if_pos (by omega), Char.ofNat_toNat]
  rfl

theorem stringChar_hexEscape (rest : List Char) :
    stringChar ('\\' :: 'u' :: rest) = (some <$> hexEscape) rest := rfl

theorem stringChar_escapedChar (c : Char) (rest : List Char) :
    stringChar (escapedChar c ++ rest) = .ok (some c, rest) := by
  unfold escapedChar
  split
  · subst c; rfl
  split
  · subst c; rfl
  split
  · subst c; rfl
  split
  · subst c; rfl
  split
  · subst c; rfl
  split
  · subst c; rfl
  split
  · subst c; rfl
  split
  next h =>
    have hescape : hexEscape.Gives
        ('0' :: '0' :: hexDigit (c.toNat / 16) :: hexDigit (c.toNat % 16) :: rest) (some c) rest :=
      hexEscape_control h rest
    exact (stringChar_hexEscape _).trans (hescape.map some)
  next hquote hslash _ _ _ _ _ hcontrol =>
    show (if c = '"' then pure none
      else if c = '\\' then some <$> escape hexEscape
      else if c.toNat < 0x20 then faultHere (.malformed .controlCharacter)
      else pure (some c) : Reader (Option Char)) rest = _
    rw [if_neg hquote, if_neg hslash, if_neg hcontrol]
    rfl

theorem length_le_length_flatMap_escapedChar (cs : List Char) :
    cs.length ≤ (cs.flatMap escapedChar).length := by
  induction cs with
  | nil => exact Nat.zero_le _
  | cons c cs ih =>
    have hne : escapedChar c ≠ [] := by
      unfold escapedChar
      repeat' split
      all_goals exact List.cons_ne_nil _ _
    have hpos := List.length_pos_iff.2 hne
    rw [List.flatMap_cons, List.length_append, List.length_cons]
    omega

theorem loop_stringStep (cs acc rest : List Char) {n : Nat} (hn : cs.length ≤ n) :
    (loop stringStep (n + 1) acc).Gives (cs.flatMap escapedChar ++ '"' :: rest)
      (some (String.ofList (acc.reverse ++ cs))) rest := by
  induction cs generalizing acc n with
  | nil =>
    rw [List.append_nil]
    exact .loop_done rfl
  | cons c cs ih =>
    obtain ⟨n, rfl⟩ := Nat.exists_eq_succ_of_ne_zero (Nat.ne_of_gt (Nat.zero_lt_of_lt hn))
    have hstep : stringStep acc ((c :: cs).flatMap escapedChar ++ '"' :: rest) =
        .ok (.inl (c :: acc), cs.flatMap escapedChar ++ '"' :: rest) := by
      rw [List.flatMap_cons, List.append_assoc]
      exact bind_ok (stringChar_escapedChar c _)
    have hnext := ih (c :: acc) (Nat.le_of_succ_le_succ hn)
    rw [List.reverse_cons, List.append_assoc] at hnext
    exact .loop_next hstep hnext

theorem stringBody_quoted (s : String) (rest : List Char) :
    stringBody (s.toList.flatMap escapedChar ++ '"' :: rest) = .ok (s, rest) := by
  have hfuel : s.toList.length ≤ 2 * (s.toList.flatMap escapedChar ++ '"' :: rest).length + 1 := by
    have hescaped := length_le_length_flatMap_escapedChar s.toList
    rw [List.length_append]
    omega
  have hloop := loop_stringStep s.toList [] rest hfuel
  rwa [List.reverse_nil, List.nil_append, String.ofList_toList] at hloop

theorem toList_quoted_append (s : String) (rest : List Char) :
    (quoted s).toList ++ rest = '"' :: (s.toList.flatMap escapedChar ++ '"' :: rest) := by
  simp [quoted]

theorem reads_text (s : String) : text.Reads {(quoted s).toList} (some s) := by
  rintro ws hws _ rfl rest
  rw [toList_quoted_append]
  exact .after (peek?_eq hws rfl _) (.after rfl (stringBody_quoted s rest))

/-! ## Further steps -/

namespace Reads

variable {r : Reader α} {p : Language Char} {a? : Option α}

theorem map (h : r.Reads p a?) (f : α → β) : (f <$> r).Reads p (a?.map f) :=
  fun ws hws w hw rest => (h ws hws w hw rest).map f

theorem bind_pure (h : r.Reads p a?) (f : α → β) : Reads (do return f (← r)) p (a?.map f) := by
  have hmap := h.map f
  rwa [map_eq_pure_bind] at hmap

theorem afterColon (h : r.Reads p a?) : Reads (do colon; r) (behindColon p) a? := by
  intro ws hws _ hw rest
  obtain ⟨_, ⟨ws', hws', v, hv, rfl⟩, rfl⟩ := mem_symbol_mul.1 hw
  have hcolon : colon (ws ++ ':' :: (ws' ++ v ++ rest)) = .ok ((), ws' ++ (v ++ rest)) := by
    rw [colon, bind_ok (peek?_eq hws rfl _), List.append_assoc]
    rfl
  exact .after hcolon (h ws' hws' v hv rest)

theorem once (h : r.Reads p a?) (name : String) :
    (once name none r).Reads (behindColon p) (a?.map some) :=
  (h.map some).afterColon

end Reads

/-! ## Items between brackets -/

/-- The steps of a loop take items one after another, each from the state before it to the one behind it
or to none, and the loop ends at a bracket. The state tells whether no item has been taken yet. -/
structure Itemwise (step : σ × Bool → Reader ((σ × Bool) ⊕ α)) (closing : Char) (finish : σ → α)
    (Takes : σ → Language Char → Option σ → Prop) : Prop where
  first : ∀ {s p s'?}, Takes s p s'? → ∀ ws ∈ blanks, ∀ w ∈ p, ∀ rest,
    (step (s, true)).Gives (ws ++ (w ++ rest)) (s'?.map fun s' => .inl (s', false)) rest
  further : ∀ {s p s'?}, Takes s p s'? → ∀ ws ∈ blanks, ∀ ws' ∈ blanks, ∀ w ∈ p, ∀ rest,
    (step (s, false)).Gives (ws ++ ',' :: (ws' ++ (w ++ rest))) (s'?.map fun s' => .inl (s', false)) rest
  done : ∀ s first, ∀ ws ∈ blanks, ∀ rest,
    step (s, first) (ws ++ closing :: rest) = .ok (.inr (finish s), closing :: rest)

/-- All items are taken in order, or the first that cannot be taken ends it. -/
inductive TakesAll (Takes : σ → Language Char → Option σ → Prop) :
    σ → List (Language Char) → Option σ → Prop where
  | nil (s : σ) : TakesAll Takes s [] (some s)
  | cons {s s' : σ} {p : Language Char} {ps : List (Language Char)} {t? : Option σ} :
    Takes s p (some s') → TakesAll Takes s' ps t? → TakesAll Takes s (p :: ps) t?
  | stop {s : σ} {p : Language Char} {ps : List (Language Char)} :
    Takes s p none → TakesAll Takes s (p :: ps) none

theorem TakesAll.append {Takes : σ → Language Char → Option σ → Prop} {s : σ}
    {ps qs : List (Language Char)} {s'? : Option σ} {t? : σ → Option σ} (hps : TakesAll Takes s ps s'?)
    (hqs : ∀ s', s'? = some s' → TakesAll Takes s' qs (t? s')) :
    TakesAll Takes s (ps ++ qs) (s'?.bind t?) := by
  induction hps with
  | nil s => exact hqs s rfl
  | cons htake _ ih => exact .cons htake (ih hqs)
  | stop htake => exact .stop htake

theorem length_le_of_mem_furtherItems {ps : List (Language Char)} {w : List Char}
    (h : w ∈ furtherItems ps) : ps.length ≤ w.length := by
  induction ps generalizing w with
  | nil => exact Nat.zero_le _
  | cons p ps ih =>
    obtain ⟨ws, _, _, hitems, rfl⟩ := mem_furtherItems_cons.1 h
    obtain ⟨ws', _, v, _, more, hmore, rfl⟩ := mem_items_cons.1 hitems
    have hlength := ih hmore
    simp only [List.length_append, List.length_cons]
    omega

theorem length_le_of_mem_items {ps : List (Language Char)} {w : List Char} (h : w ∈ items ps) :
    ps.length ≤ w.length + 1 := by
  cases ps with
  | nil => exact Nat.zero_le _
  | cons p ps =>
    obtain ⟨ws, _, v, _, more, hmore, rfl⟩ := mem_items_cons.1 h
    have hlength := length_le_of_mem_furtherItems hmore
    simp only [List.length_append, List.length_cons]
    omega

namespace Itemwise

variable {step : σ × Bool → Reader ((σ × Bool) ⊕ α)} {closing : Char} {finish : σ → α}
  {Takes : σ → Language Char → Option σ → Prop}

theorem loop_further (h : Itemwise step closing finish Takes) {s : σ} {ps : List (Language Char)}
    {t? : Option σ} (hps : TakesAll Takes s ps t?) {w : List Char} (hw : w ∈ furtherItems ps)
    {n : Nat} (hn : ps.length ≤ n) (rest : List Char) :
    (loop step (n + 1) (s, false)).Gives (w ++ closing :: rest) (t?.map finish) (closing :: rest) := by
  induction hps generalizing w n with
  | nil s => exact .loop_done (h.done s false w hw rest)
  | cons htake _ ih =>
    obtain ⟨n, rfl⟩ := Nat.exists_eq_succ_of_ne_zero (Nat.ne_of_gt (Nat.zero_lt_of_lt hn))
    obtain ⟨ws, hws, _, hitems, rfl⟩ := mem_furtherItems_cons.1 hw
    obtain ⟨ws', hws', v, hv, more, hmore, rfl⟩ := mem_items_cons.1 hitems
    have hstep := h.further htake ws hws ws' hws' v hv (more ++ closing :: rest)
    rw [List.append_assoc, List.cons_append, List.append_assoc, List.append_assoc]
    exact .loop_next hstep (ih hmore (Nat.le_of_succ_le_succ hn))
  | stop htake =>
    obtain ⟨ws, hws, _, hitems, rfl⟩ := mem_furtherItems_cons.1 hw
    obtain ⟨ws', hws', v, hv, more, hmore, rfl⟩ := mem_items_cons.1 hitems
    have hstep := h.further htake ws hws ws' hws' v hv (more ++ closing :: rest)
    rw [List.append_assoc, List.cons_append, List.append_assoc, List.append_assoc]
    exact .loop_stop hstep

theorem readsItems (h : Itemwise step closing finish Takes) {s : σ} {ps : List (Language Char)}
    {t? : Option σ} (hps : TakesAll Takes s ps t?) :
    (repeated step (s, true)).ReadsItems closing ps (t?.map finish) := by
  intro w hw rest
  -- Every item but the first has a comma in front of it, so there are steps enough for all of them.
  have hfuel : ps.length ≤ 2 * (w ++ closing :: rest).length := by
    have hlength := length_le_of_mem_items hw
    simp only [List.length_append, List.length_cons]
    omega
  show (loop step (2 * (w ++ closing :: rest).length + 1 + 1) (s, true)).Gives _ _ _
  cases hps with
  | nil => exact .loop_done (h.done s true w hw rest)
  | cons htake hrest =>
    obtain ⟨ws, hws, v, hv, more, hmore, rfl⟩ := mem_items_cons.1 hw
    have hstep := h.first htake ws hws v hv (more ++ closing :: rest)
    have hnext := h.loop_further hrest hmore (Nat.le_of_succ_le hfuel) rest
    rw [List.append_assoc, List.append_assoc] at hnext ⊢
    exact .loop_next hstep hnext
  | stop htake =>
    obtain ⟨ws, hws, v, hv, more, hmore, rfl⟩ := mem_items_cons.1 hw
    have hstep := h.first htake ws hws v hv (more ++ closing :: rest)
    rw [List.append_assoc, List.append_assoc]
    exact .loop_stop hstep

end Itemwise

/-- Where every item puts its value in front of those before it, all items together come to the list of
their values in reverse order. -/
theorem takesAll_collect {Takes : List α → Language Char → Option (List α) → Prop}
    {form : β → Language Char} {P : β → Prop} [DecidablePred P] {f : β → α} {xs : List β}
    (h : ∀ x ∈ xs, ∀ found, Takes found (form x) (if P x then some (f x :: found) else none))
    (found : List α) :
    TakesAll Takes found (xs.map form)
      (if ∀ x ∈ xs, P x then some ((xs.map f).reverse ++ found) else none) := by
  induction xs generalizing found with
  | nil => exact .nil found
  | cons x xs ih =>
    rw [List.forall_mem_cons] at h
    have hx := h.1 found
    have hrest := ih h.2 (f x :: found)
    by_cases hP : P x
    · rw [if_pos hP] at hx
      have hall := TakesAll.cons hx hrest
      simpa [hP] using hall
    · rw [if_neg hP] at hx
      have hall : TakesAll Takes found (form x :: xs.map form) none := .stop hx
      simpa [hP] using hall

/-! ### Elements -/

/-- Every word starts with a character that neither is white space nor ends a list. -/
def Leads (p : Language Char) : Prop :=
  ∃ c, StartsWith c p ∧ isBlank c = false ∧ c ≠ ']'

theorem leads_string (s : String) : Leads (Value.string s).written :=
  ⟨'"', startsWith_quoted s, rfl, by decide⟩

theorem leads_array (elements : List Value) : Leads (Value.array elements).written :=
  ⟨'[', startsWith_enclosed _ _ _, rfl, by decide⟩

theorem leads_object (members : List (String × Value)) : Leads (Value.object members).written :=
  ⟨'\x7b', startsWith_enclosed _ _ _, rfl, by decide⟩

theorem nextElement_first {p : Language Char} (hp : Leads p) {ws w : List Char} (hws : ws ∈ blanks)
    (hw : w ∈ p) (rest : List Char) : nextElement true (ws ++ (w ++ rest)) = .ok (true, w ++ rest) := by
  obtain ⟨c, hstart, hblank, hend⟩ := hp
  obtain ⟨tail, rfl⟩ := hstart w hw
  rw [nextElement, List.cons_append, bind_ok (peek?_eq hws hblank _)]
  simp only [if_neg hend]
  rfl

theorem nextElement_further {p : Language Char} (hp : Leads p) {ws ws' w : List Char} (hws : ws ∈ blanks)
    (hws' : ws' ∈ blanks) (hw : w ∈ p) (rest : List Char) :
    nextElement false (ws ++ ',' :: (ws' ++ (w ++ rest))) = .ok (true, w ++ rest) := by
  obtain ⟨c, hstart, hblank, hend⟩ := hp
  obtain ⟨tail, rfl⟩ := hstart w hw
  have hnext : (nextElement false).Gives (ws ++ ',' :: (ws' ++ c :: (tail ++ rest))) (some true)
      (c :: (tail ++ rest)) := by
    refine .after (peek?_eq hws rfl _) (.after rfl (.after (peek?_eq hws' hblank _) ?_))
    split
    next heq => exact absurd (Option.some.inj heq) hend
    · rfl
    next heq => cases heq
  exact hnext

theorem nextElement_done (first : Bool) {ws : List Char} (hws : ws ∈ blanks) (rest : List Char) :
    nextElement first (ws ++ ']' :: rest) = .ok (false, ']' :: rest) :=
  bind_ok (peek?_eq hws rfl rest)

/-- An element that the reader comes to is put in front of those before it. -/
def TakesElement (element : Reader α) (found : List α) (p : Language Char) (found'? : Option (List α)) :
    Prop :=
  Leads p ∧ ∃ a?, element.Reads p a? ∧ found'? = a?.map (· :: found)

theorem element_gives {element : Reader α} {p : Language Char} {a? : Option α} (h : element.Reads p a?)
    (found : List α) {w : List Char} (hw : w ∈ p) (rest : List Char) :
    Gives (do let a ← element; return .inl (a :: found, false)) (w ++ rest)
      ((a?.map (· :: found)).map fun found' => (.inl (found', false) : (List α × Bool) ⊕ List α)) rest := by
  have hmap := (h [] nil_mem_blanks w hw rest).map fun a =>
    (.inl (a :: found, false) : (List α × Bool) ⊕ List α)
  rw [map_eq_pure_bind] at hmap
  rw [Option.map_map]
  exact hmap

theorem itemwise_elementStep (element : Reader α) :
    Itemwise (elementStep element) ']' List.reverse (TakesElement element) where
  first := by
    rintro found p _ ⟨hp, a?, helement, rfl⟩ ws hws w hw rest
    exact .after (nextElement_first hp hws hw rest) (element_gives helement found hw rest)
  further := by
    rintro found p _ ⟨hp, a?, helement, rfl⟩ ws hws ws' hws' w hw rest
    exact .after (nextElement_further hp hws hws' hw rest) (element_gives helement found hw rest)
  done := fun found first ws hws rest => bind_ok (nextElement_done first hws rest)

theorem readsItems_elements {element : Reader α} {form : β → Language Char} {P : β → Prop}
    [DecidablePred P] {f : β → α} {xs : List β}
    (h : ∀ x ∈ xs, Leads (form x) ∧ element.Reads (form x) (if P x then some (f x) else none)) :
    (elements element).ReadsItems ']' (xs.map form)
      (if ∀ x ∈ xs, P x then some (xs.map f) else none) := by
  have htakes : ∀ x ∈ xs, ∀ found,
      TakesElement element found (form x) (if P x then some (f x :: found) else none) :=
    fun x hx found => ⟨(h x hx).1, _, (h x hx).2, by rw [Option.map_if]⟩
  have hitems := (itemwise_elementStep element).readsItems (takesAll_collect htakes [])
  rwa [Option.map_if, List.append_nil, List.reverse_reverse] at hitems

/-! ### Members -/

theorem nextMember_first {ws : List Char} (hws : ws ∈ blanks) (rest : List Char) :
    nextMember true (ws ++ '"' :: rest) = .ok (true, '"' :: rest) :=
  bind_ok (peek?_eq hws rfl rest)

theorem nextMember_further {ws ws' : List Char} (hws : ws ∈ blanks) (hws' : ws' ∈ blanks)
    (rest : List Char) :
    nextMember false (ws ++ ',' :: (ws' ++ '"' :: rest)) = .ok (true, '"' :: rest) := by
  have hnext : (nextMember false).Gives (ws ++ ',' :: (ws' ++ '"' :: rest)) (some true) ('"' :: rest) :=
    .after (peek?_eq hws rfl _) (.after rfl (.after (peek?_eq hws' rfl rest) rfl))
  exact hnext

theorem nextMember_done (first : Bool) {ws : List Char} (hws : ws ∈ blanks) (rest : List Char) :
    nextMember first (ws ++ '\x7d' :: rest) = .ok (false, '\x7d' :: rest) :=
  bind_ok (peek?_eq hws rfl rest)

/-- A member whose value the function for members reads is taken. -/
def TakesMember (member : σ → String → Reader σ) (s : σ) (p : Language Char) (s'? : Option σ) : Prop :=
  ∃ name q, p = memberForms name q ∧ (member s name).Reads (behindColon q) s'?

theorem member_gives {member : σ → String → Reader σ} {s : σ} {name : String} {q : Language Char}
    {s'? : Option σ} (h : (member s name).Reads (behindColon q) s'?) {w : List Char}
    (hw : w ∈ memberForms name q) : ∃ tail, w = '"' :: tail ∧ ∀ rest,
      Gives (do let name ← stringBody; let s' ← member s name; return .inl (s', false)) (tail ++ rest)
        (s'?.map fun s' => (.inl (s', false) : (σ × Bool) ⊕ σ)) rest := by
  obtain ⟨_, rfl, _, ⟨ws, hws, v, hv, rfl⟩, rfl⟩ := hw
  refine ⟨_, toList_quoted_append name _, fun rest => ?_⟩
  rw [List.append_assoc]
  refine .after (stringBody_quoted name _) ?_
  have hvalue := (h ws hws v hv rest).map fun s' => (.inl (s', false) : (σ × Bool) ⊕ σ)
  rwa [map_eq_pure_bind, ← List.append_assoc] at hvalue

theorem itemwise_memberStep (member : σ → String → Reader σ) :
    Itemwise (memberStep member) '\x7d' id (TakesMember member) where
  first := by
    rintro s p s'? ⟨name, q, rfl, hvalue⟩ ws hws w hw rest
    obtain ⟨tail, rfl, hmember⟩ := member_gives hvalue hw
    exact .after (nextMember_first hws _) (.after rfl (hmember rest))
  further := by
    rintro s p s'? ⟨name, q, rfl, hvalue⟩ ws hws ws' hws' w hw rest
    obtain ⟨tail, rfl, hmember⟩ := member_gives hvalue hw
    exact .after (nextMember_further hws hws' _) (.after rfl (hmember rest))
  done := fun s first ws hws rest => bind_ok (nextMember_done first hws rest)

theorem readsItems_members {member : σ → String → Reader σ} {s : σ} {ps : List (Language Char)}
    {t? : Option σ} (h : TakesAll (TakesMember member) s ps t?) :
    (members member s).ReadsItems '\x7d' ps t? := by
  have hitems := (itemwise_memberStep member).readsItems h
  rwa [Option.map_id] at hitems

theorem ReadsItems.bind_pure {r : Reader α} {closing : Char} {ps : List (Language Char)} {a? : Option α}
    (h : r.ReadsItems closing ps a?) {next : α → Reader β} {f : α → β}
    (hnext : ∀ a, a? = some a → next a = pure (f a)) :
    (r >>= next).ReadsItems closing ps (a?.map f) := by
  intro w hw rest
  rw [Option.map_eq_bind]
  refine (h w hw rest).bind fun a ha => ?_
  rw [hnext a ha]
  exact .pure (f a) _

/-! ## Containers -/

/-- A reader that meets a written form comes to the value that is written so, where this form nests no more
deeply than there is room, and to none where it does. -/
def ReadsWithin (r : Reader α) (room : Nat) (v : Value) (a : α) : Prop :=
  r.Reads v.written (if v.nesting ≤ room then some a else none)

theorem text_readsWithin (room : Nat) (s : String) : text.ReadsWithin room (.string s) s := by
  rw [ReadsWithin, if_pos (show (Value.string s).nesting ≤ room from Nat.zero_le room)]
  exact reads_text s

theorem textOrNull_readsWithin (room : Nat) (s : String) :
    textOrNull.ReadsWithin room (.string s) (some s) := by
  have htext := Reads.map (text_readsWithin room s) some
  rw [Option.map_if] at htext
  exact reads_peek rfl (startsWith_quoted s) htext

theorem ReadsWithin.once {r : Reader α} {room : Nat} {v : Value} {a : α} (h : r.ReadsWithin room v a)
    (name : String) (f : Option α → β) :
    Reads (do return f (← Reader.once name none r)) (behindColon v.written)
      (if v.nesting ≤ room then some (f (some a)) else none) := by
  have honce := (Reads.once h name).bind_pure f
  rwa [Option.map_if, Option.map_if] at honce

theorem endList_closing (rest : List Char) : endList (']' :: rest) = .ok ((), rest) := rfl

theorem endObject_closing (rest : List Char) : endObject ('\x7d' :: rest) = .ok ((), rest) := rfl

/-- What is between two brackets is read where one more container may be opened. -/
theorem gives_enclosed {room : Nat} {inner : Reader β} {close : Reader Unit} {closing : Char}
    {ps : List (Language Char)} {P : Prop} [Decidable P] {b : β}
    (h : 0 < room → inner.ReadsItems closing ps (if P then some b else none))
    (hclose : ∀ rest, close (closing :: rest) = .ok ((), rest)) (f : β → α) (opening : Char)
    {inside : List Char} (hinside : inside ∈ items ps) (rest : List Char) :
    Gives (if room = 0 then tooDeep else do eat; let b ← inner; close; return f b)
      (opening :: (inside ++ closing :: rest)) (if 0 < room ∧ P then some (f b) else none) rest := by
  rcases Nat.eq_zero_or_pos room with rfl | hroom
  · exact .tooDeep _ rest
  · have hvalue : (if 0 < room ∧ P then some (f b) else none) =
        (if P then some b else none).bind fun b => some (f b) := by
      by_cases hP : P
      · rw [if_pos ⟨hroom, hP⟩, if_pos hP, Option.bind_some]
      · rw [if_neg fun hand => hP hand.2, if_neg hP, Option.bind_none]
    rw [if_neg (Nat.ne_of_gt hroom), hvalue]
    refine .after rfl ((h hroom inside hinside rest).bind fun b _ => ?_)
    exact .after (hclose rest) (.pure (f b) rest)

theorem mem_enclosed_append {opening closing : Char} {ps : List (Language Char)} {w : List Char}
    (h : w ∈ enclosed opening closing ps) : ∃ inside ∈ items ps, ∀ rest,
      w ++ rest = opening :: (inside ++ closing :: rest) := by
  obtain ⟨inside, hinside, rfl⟩ := mem_enclosed.1 h
  exact ⟨inside, hinside, fun rest => by simp⟩

theorem listOf_readsWithin {room : Nat} {element : Reader α} {toValue : β → Value} {f : β → α} {xs : List β}
    (h : 0 < room → ∀ x ∈ xs, Leads (toValue x).written ∧
      element.ReadsWithin (room - 1) (toValue x) (f x)) :
    (listOf room element).ReadsWithin room (.array (xs.map toValue)) (xs.map f) := by
  have hitems : 0 < room → (elements element).ReadsItems ']' (xs.map fun x => (toValue x).written)
      (if ∀ x ∈ xs, (toValue x).nesting ≤ room - 1 then some (xs.map f) else none) :=
    fun hroom => readsItems_elements (h hroom)
  rw [ReadsWithin, Value.written_array, List.map_map]
  simp only [Value.nesting_array_le_iff, List.forall_mem_map]
  intro ws hws w hw rest
  obtain ⟨inside, hinside, hsplit⟩ := mem_enclosed_append hw
  rw [hsplit]
  exact .after (peek?_eq hws rfl _) (gives_enclosed hitems endList_closing id '[' hinside rest)

/-- An object whose values are all read in the same way comes to its names with what their values are read
as. -/
theorem mapOf_readsWithin {room : Nat} {value : Reader α} {name : β → String} {toValue : β → Value}
    {f : β → α} {xs : List β}
    (h : 0 < room → ∀ x ∈ xs, value.ReadsWithin (room - 1) (toValue x) (f x)) :
    (mapOf room value).ReadsWithin room (.object (xs.map fun x => (name x, toValue x)))
      (xs.map fun x => (name x, f x)) := by
  have hitems : 0 < room → (members (fun acc name => do colon; let a ← value; return (name, a) :: acc)
      []).ReadsItems '\x7d' (xs.map fun x => memberForms (name x) (toValue x).written)
      (if ∀ x ∈ xs, (toValue x).nesting ≤ room - 1 then some (xs.map fun x => (name x, f x)).reverse
        else none) := by
    intro hroom
    refine readsItems_members ?_
    have hmember : ∀ x ∈ xs, ∀ found : List (String × α),
        TakesMember (fun acc name => do colon; let a ← value; return (name, a) :: acc) found
          (memberForms (name x) (toValue x).written)
          (if (toValue x).nesting ≤ room - 1 then some ((name x, f x) :: found) else none) := by
      intro x hx found
      have hvalue := ((h hroom x hx).map fun a => (name x, a) :: found).afterColon
      rw [map_eq_pure_bind, Option.map_if] at hvalue
      exact ⟨name x, _, rfl, hvalue⟩
    have hall := takesAll_collect hmember []
    rwa [List.append_nil] at hall
  rw [ReadsWithin, Value.written_object, List.map_map]
  simp only [Value.nesting_object_le_iff, List.forall_mem_map]
  intro ws hws w hw rest
  obtain ⟨inside, hinside, hsplit⟩ := mem_enclosed_append hw
  rw [hsplit]
  have hgives := gives_enclosed hitems endObject_closing List.reverse '\x7b' hinside rest
  rw [List.reverse_reverse] at hgives
  exact .after (peek?_eq hws rfl _) hgives

/-! ## Whole texts -/

theorem decode_eq_ok {r : Reader α} {p : Language Char} {a : α} (h : r.Reads p (some a)) {text : String}
    (htext : text.toList ∈ p) : decode r text = .ok a := by
  have hread := h [] nil_mem_blanks _ htext []
  rw [List.nil_append, List.append_nil] at hread
  show Prod.fst <$> (r >>= _) text.toList = _
  rw [bind_ok hread]
  rfl

theorem decode_eq_error {r : Reader α} {p : Language Char} (h : r.Reads p none) {text : String}
    (htext : text.toList ∈ p) :
    ∃ fault, decode r text = .error fault ∧ fault.cause = .malformed .nestedTooDeeply := by
  obtain ⟨fault, hfault, hcause⟩ := h [] nil_mem_blanks _ htext []
  rw [List.nil_append, List.append_nil] at hfault
  refine ⟨fault, ?_, hcause⟩
  show Prod.fst <$> (r >>= _) text.toList = _
  rw [bind_error hfault]
  rfl

end DialectConversion.Json.Reader
