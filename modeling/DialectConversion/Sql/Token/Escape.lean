import DialectConversion.Sql.Token.Spot
import DialectConversion.Text.Digit

/-! Quoted text in which a backslash starts a sequence that stands for one character. There are three
kinds: text where any character may follow the backslash, text with the sequences for controls and
for code points in octal or hexadecimal digits, and text whose only sequences are code points in
hexadecimal digits. -/
namespace DialectConversion.Sql.Spot
set_option autoImplicit false
open Text

def digitValue? (base : Nat) (c : Char) : Option Nat :=
  let value? :=
    if '0' ≤ c ∧ c ≤ '9' then some (c.toNat - '0'.toNat)
    else if 'a' ≤ c ∧ c ≤ 'f' then some (c.toNat - 'a'.toNat + 10)
    else if 'A' ≤ c ∧ c ≤ 'F' then some (c.toNat - 'A'.toNat + 10)
    else none
  value?.filter (· < base)

/-- The number that digits of a base are, none where one of them is no such digit. -/
def numberIn? (base : Nat) (digits : List Char) : Option Nat :=
  digits.foldl (fun acc? c => acc?.bind fun n => (digitValue? base c).map (base * n + ·)) (some 0)

/-- The character with a code point, none for surrogates and for numbers beyond all code points. -/
def charOf? (code : Nat) : Option Char :=
  if (Char.ofNat code).toNat = code then some (Char.ofNat code) else none

/-! ## Any character behind a backslash -/

/-- The character that a backslash and the character behind it stand for. -/
def backslashed : Char → Char
  | '0' => '\x00'
  | 'a' => '\x07'
  | 'b' => '\x08'
  | 'f' => '\x0c'
  | 'n' => '\n'
  | 'r' => '\r'
  | 't' => '\t'
  | 'Z' => '\x1a'
  | c => c

/-- The text up to the closing single quote. A doubled quote stands for one, and a backslash with
the character behind it for one character. -/
def backslashQuoted : List Spot → Option (List Char × List Spot)
  | [] => none
  | [(c, _)] => if c = '\'' then some ([], []) else none
  | (c, _) :: (d, l) :: rest =>
    if c = '\\' then (backslashQuoted rest).map fun (cs, left) => (backslashed d :: cs, left)
    else if c = '\'' then
      if d = '\'' then (backslashQuoted rest).map fun (cs, left) => ('\'' :: cs, left)
      else some ([], (d, l) :: rest)
    else (backslashQuoted ((d, l) :: rest)).map fun (cs, left) => (c :: cs, left)

/-! ## Controls and code points -/

/-- The code point that so many hexadecimal digits are; a plus sign may stand for the first digit. -/
def codeOf? (count : Nat) (spots : List Spot) : Option (Char × List Spot) :=
  let digits := chars (spots.take count)
  let number? := match digits with
    | '+' :: rest => if rest.isEmpty then none else numberIn? 16 rest
    | _ => numberIn? 16 digits
  if digits.length < count then none
  else (number?.bind charOf?).map fun c => (c, spots.drop count)

/-- The character of a byte given by digits of a base; only the lower half of all bytes is text. -/
def byteChar? (base : Nat) (digits : List Char) : Option Char :=
  (numberIn? base digits).bind fun n => if n % 256 < 128 then charOf? (n % 256) else none

/-- The digits of a base at the beginning, at most so many, and what follows them. -/
def digitsIn (base most : Nat) (spots : List Spot) : List Char × List Spot :=
  let digits := (spots.take most).takeWhile fun s => (digitValue? base s.1).isSome
  (chars digits, spots.drop digits.length)

/-- The character of a sequence behind its backslash, and what follows it. -/
def sequence? : List Spot → Option (Char × List Spot)
  | [] => none
  | (c, l) :: rest =>
    match c with
    | 'b' => some ('\x08', rest)
    | 'f' => some ('\x0c', rest)
    | 'n' => some ('\n', rest)
    | 'r' => some ('\r', rest)
    | 't' => some ('\t', rest)
    | 'u' => codeOf? 4 rest
    | 'U' => codeOf? 8 rest
    | 'x' =>
      match digitsIn 16 2 rest with
      | ([], _) => some ('x', rest)
      | (digits, left) => (byteChar? 16 digits).map fun c => (c, left)
    | c =>
      match digitsIn 8 3 ((c, l) :: rest) with
      | ([], _) => some (c, rest)
      | (digits, left) => (byteChar? 8 digits).map fun c => (c, left)

/-- The text up to the closing single quote, read within so many steps. A doubled quote stands for
one. None where a sequence is not well-formed or stands for the null character. -/
def escapedWithin : Nat → List Spot → Option (List Char × List Spot)
  | 0, _ => none
  | _, [] => none
  | steps + 1, (c, _) :: rest =>
    if c = '\\' then do
      let (d, left) ← sequence? rest
      if d = '\x00' then none
      else
        let (cs, left) ← escapedWithin steps left
        pure (d :: cs, left)
    else if c = '\'' then
      match after? ['\''] rest with
      | some left => (escapedWithin steps left).map fun (cs, left) => ('\'' :: cs, left)
      | none => some ([], rest)
    else (escapedWithin steps rest).map fun (cs, left) => (c :: cs, left)

/-- The text up to the closing single quote, with sequences for controls and code points. -/
def escaped (spots : List Spot) : Option (List Char × List Spot) :=
  escapedWithin (spots.length + 1) spots

/-! ## Code points alone -/

/-- What is wrong with text whose sequences are code points, and where. -/
abbrev Misspelling := String × Location

/-- The number that the next so many hexadecimal digits go on with. -/
def hexNumber (finish : Location) : Nat → Nat → List Spot → Except Misspelling (Nat × List Spot)
  | 0, number, spots => .ok (number, spots)
  | _ + 1, _, [] => .error ("Unexpected EOF while parsing hex digit in escaped unicode string.", finish)
  | count + 1, number, (c, _) :: rest =>
    match digitValue? 16 c with
    | some digit => hexNumber finish count (16 * number + digit) rest
    | none =>
      .error ("Invalid hex digit in escaped unicode string: " ++ c.toString, placeIn finish rest)

/-- The character whose code point the next so many hexadecimal digits are. -/
def hexChar (finish : Location) (count : Nat) (spots : List Spot) :
    Except Misspelling (Char × List Spot) := do
  let (code, left) ← hexNumber finish count 0 spots
  match charOf? code with
  | some c => pure (c, left)
  | none =>
    .error ("Invalid unicode character: " ++ String.ofList (Nat.toDigits 16 code), placeIn finish left)

/-- The text up to the closing single quote, read within so many steps. A doubled quote and a doubled
backslash stand for one; a backslash starts a code point of four digits, or of six behind a plus
sign. -/
def codedWithin (finish : Location) : Nat → List Spot → Except Misspelling (List Char × List Spot)
  | 0, _ => .error ("Unterminated unicode encoded string literal", finish)
  | _, [] => .error ("Unterminated unicode encoded string literal", finish)
  | steps + 1, (c, _) :: rest => do
    if c = '\'' then
      match after? ['\''] rest with
      | some left =>
        let (cs, left) ← codedWithin finish steps left
        pure ('\'' :: cs, left)
      | none => pure ([], rest)
    else
      let (d, left) ← (
        if c = '\\' then
          match after? ['\\'] rest, after? ['+'] rest with
          | some left, _ => pure ('\\', left)
          | none, some left => hexChar finish 6 left
          | none, none => hexChar finish 4 rest
        else pure (c, rest) : Except Misspelling (Char × List Spot))
      let (cs, left) ← codedWithin finish steps left
      pure (d :: cs, left)

/-- The text up to the closing single quote, with sequences for code points. -/
def coded (finish : Location) (spots : List Spot) : Except Misspelling (List Char × List Spot) :=
  codedWithin finish (spots.length + 1) spots

end DialectConversion.Sql.Spot
