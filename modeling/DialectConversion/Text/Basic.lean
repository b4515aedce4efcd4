/-! Texts and characters: joining with separators, doubling, quotes, white space, the case of ASCII letters and
sets of characters. -/
namespace DialectConversion.Text
set_option autoImplicit false

/-! ## Joining and doubling -/

/-- The texts in order with the separator between neighbours. -/
def joined (separator : String) : List String → String
  | [] => ""
  | [s] => s
  | s :: t :: rest => s ++ separator ++ joined separator (t :: rest)

/-- The texts in order, each behind a separator. -/
def trailed (separator : String) : List String → String
  | [] => ""
  | s :: rest => separator ++ s ++ trailed separator rest

theorem joined_cons (separator s : String) (rest : List String) :
    joined separator (s :: rest) = s ++ trailed separator rest := by
  induction rest generalizing s with
  | nil => exact String.append_empty.symm
  | cons t rest ih => rw [joined, ih, trailed, String.append_assoc, String.append_assoc]

theorem trailed_append (separator : String) (first second : List String) :
    trailed separator (first ++ second) = trailed separator first ++ trailed separator second := by
  induction first with
  | nil => exact String.empty_append.symm
  | cons s first ih =>
    rw [List.cons_append, trailed, trailed, ih]
    simp only [String.append_assoc]

@[simp] theorem trailed_nil (separator : String) : trailed separator [] = "" := rfl

@[simp] theorem trailed_singleton (separator s : String) : trailed separator [s] = separator ++ s :=
  String.append_empty

/-- Writes every occurrence of one character twice. -/
def doubled (mark : Char) : List Char → List Char
  | [] => []
  | c :: rest => if c = mark then c :: c :: doubled mark rest else c :: doubled mark rest

/-- Reads every pair of the character, taken from the left, as one. -/
def undoubled (mark : Char) : List Char → List Char
  | [] => []
  | [c] => [c]
  | c :: d :: rest =>
    if c = mark ∧ d = mark then c :: undoubled mark rest else c :: undoubled mark (d :: rest)

theorem undoubled_doubled (mark : Char) (cs : List Char) : undoubled mark (doubled mark cs) = cs := by
  induction cs with
  | nil => rfl
  | cons c rest ih =>
    by_cases h : c = mark
    · simp [doubled, undoubled, h, ih]
    · cases hd : doubled mark rest with
      | nil => simpa [doubled, undoubled, h, hd] using ih
      | cons d tail =>
        rw [hd] at ih
        simp [doubled, undoubled, h, hd, ih]

/-! ## Between quotes

Text is written between quotes without knowing whether the quotes inside it were escaped before. -/

/-- Doubles each quote that stands alone. A quote in a pair is taken as escaped, and so are the
quotes that follow a backslash. -/
def loneDoubled (quote : Char) : Bool → List Char → List Char
  | _, [] => []
  | afterBackslash, [c] => if c = quote ∧ ¬ afterBackslash then [c, c] else [c]
  | afterBackslash, c :: d :: rest =>
    if c = quote then
      if afterBackslash then c :: loneDoubled quote true (d :: rest)
      else if d = quote then c :: d :: loneDoubled quote false rest
      else c :: c :: loneDoubled quote false (d :: rest)
    else c :: loneDoubled quote (c == '\\') (d :: rest)

/-- A text between two quotes, with each lone quote inside doubled. -/
def betweenQuotes (quote : Char) (text : String) : String :=
  quote.toString ++ String.ofList (loneDoubled quote false text.toList) ++ quote.toString

/-! ## White space -/

/-- Whether a character carries the White_Space property. -/
def isWhiteSpace (c : Char) : Bool :=
  let n := c.toNat
  (9 ≤ n && n ≤ 13) || n == 0x20 || n == 0x85 || n == 0xA0 || n == 0x1680 ||
    (0x2000 ≤ n && n ≤ 0x200A) || n == 0x2028 || n == 0x2029 || n == 0x202F || n == 0x205F ||
    n == 0x3000

/-- The characters without the white space at either end. -/
def trimmed (cs : List Char) : List Char :=
  ((cs.dropWhile isWhiteSpace).reverse.dropWhile isWhiteSpace).reverse

def trim (s : String) : String :=
  String.ofList (trimmed s.toList)

/-! ## ASCII case

Comparison and search that ignore the case of ASCII letters and nothing else. -/

/-- Whether two texts agree up to the case of ASCII letters. -/
def equalIgnoringAsciiCase (a b : String) : Bool :=
  a.toList.map Char.toLower == b.toList.map Char.toLower

/-- Whether a list occurs as a contiguous part of another. -/
def occursIn (part : List Char) : List Char → Bool
  | [] => part.isEmpty
  | c :: rest => part.isPrefixOf (c :: rest) || occursIn part rest

/-- Whether the second text occurs in the first one, up to the case of ASCII letters. -/
def containsIgnoringAsciiCase (text part : String) : Bool :=
  occursIn (part.toList.map Char.toLower) (text.toList.map Char.toLower)

/-! ## Sets of characters -/

/-- Whether the code point lies in one of the ranges, ends included. -/
def inRanges (ranges : List (Nat × Nat)) (c : Char) : Bool :=
  ranges.any fun r => r.1 ≤ c.toNat && c.toNat ≤ r.2

end DialectConversion.Text
