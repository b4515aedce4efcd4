import DialectConversion.Json.Fault
import DialectConversion.Json.Value
import DialectConversion.Text.Digit

/-! Reading JSON text from left to right. Values are read into the type that is asked for as the text
goes by, so that of several faults the leftmost one is found; values that nobody asks for are only
skipped. Objects and lists may be open inside each other to a depth that the reader of a type keeps
track of; skipped values know no such limit. -/
namespace DialectConversion.Json
set_option autoImplicit false
open Text (isDecimalDigit)

/-- Reads something from the front of a text and leaves the rest. -/
abbrev Reader (α : Type) := StateT (List Char) (Except Fault) α

namespace Reader
variable {α σ : Type}

/-! ## Faults and single characters -/

/-- Stops at the place reached. -/
def faultHere (cause : Cause) : Reader α := fun cs => .error ⟨cause, cs.length, false⟩

/-- Stops at the character that comes next. -/
def faultAhead (cause : Cause) : Reader α := fun cs => .error ⟨cause, cs.length, true⟩

/-- White space between the tokens of a JSON text. -/
def isBlank (c : Char) : Bool := c == ' ' || c == '\n' || c == '\t' || c == '\r'

/-- Skips white space and looks at what follows. -/
def peek? : Reader (Option Char) := fun cs =>
  let rest := cs.dropWhile isBlank
  .ok (rest.head?, rest)

/-- Leaves out the next character. -/
def eat : Reader Unit := fun cs => .ok ((), cs.drop 1)

/-- Repeats a step until it delivers a result. The count is taken from the text: every step but the
last reads a character or prepares for a step that does. -/
def loop (step : σ → Reader (σ ⊕ α)) : Nat → σ → Reader α
  | 0, _ => faultHere (.unfinished .value)
  | n + 1, s => do
    match ← step s with
    | .inl s' => loop step n s'
    | .inr a => pure a

/-- Repeats a step as often as the length of the text allows. -/
def repeated (step : σ → Reader (σ ⊕ α)) (init : σ) : Reader α := fun cs =>
  loop step (2 * cs.length + 2) init cs

/-- Reads the rest of one of the words null, true and false. -/
def word : List Char → Reader Unit
  | [] => pure ()
  | expected :: more => do
    match ← get with
    | [] => faultHere (.unfinished .value)
    | c :: _ =>
      eat
      if c = expected then word more else faultHere (.malformed .expectedWord)

/-! ## Strings -/

def hexValue? (c : Char) : Option Nat :=
  if c.isDigit then some (c.toNat - 0x30)
  else if 'a' ≤ c ∧ c ≤ 'f' then some (c.toNat - 0x61 + 10)
  else if 'A' ≤ c ∧ c ≤ 'F' then some (c.toNat - 0x41 + 10)
  else none

def fourHexDigits : Reader Nat := fun cs =>
  let next := cs.take 4
  if (String.ofList next).utf8ByteSize < 4 then .error ⟨.unfinished .string, 0, false⟩
  else match next.mapM hexValue? with
    | some [a, b, c, d] => .ok (((a * 16 + b) * 16 + c) * 16 + d, cs.drop 4)
    | _ => .error ⟨.malformed .invalidEscape, (cs.drop 4).length, false⟩

/-- A character that must come between the two halves of an escaped pair. -/
def pairLink (c : Char) : Reader Unit := do
  match ← get with
  | [] => faultHere (.unfinished .string)
  | d :: _ =>
    eat
    if c = d then pure () else faultHere (.malformed .endOfHexEscape)

/-- The character of a hexadecimal escape, after its introduction. Characters beyond the sixteen-bit
range are written as two escapes, a high and a low half. -/
def hexEscape : Reader Char := do
  let n ← fourHexDigits
  if 0xDC00 ≤ n ∧ n ≤ 0xDFFF then faultHere (.malformed .loneSurrogate)
  else if n < 0xD800 ∨ 0xDBFF < n then pure (Char.ofNat n)
  else
    pairLink '\\'
    pairLink 'u'
    let low ← fourHexDigits
    if low < 0xDC00 ∨ 0xDFFF < low then faultHere (.malformed .loneSurrogate)
    else pure (Char.ofNat ((n - 0xD800) * 0x400 + (low - 0xDC00) + 0x10000))

/-- The character that a backslash and a single character stand for. -/
def simpleEscape? (c : Char) : Option Char :=
  if c = '"' ∨ c = '\\' ∨ c = '/' then some c
  else if c = 'b' then some '\x08'
  else if c = 'f' then some '\x0c'
  else if c = 'n' then some '\n'
  else if c = 'r' then some '\r'
  else if c = 't' then some '\t'
  else none

/-- What follows a backslash, with the given reading of hexadecimal escapes. -/
def escape (hex : Reader Char) : Reader Char := do
  match ← get with
  | [] => faultHere (.unfinished .string)
  | c :: _ =>
    eat
    if c = 'u' then hex
    else match simpleEscape? c with
      | some d => pure d
      | none => faultHere (.malformed .invalidEscape)

/-- The next character of a string, or none at its closing quote. -/
def stringChar : Reader (Option Char) := do
  match ← get with
  | [] => faultHere (.unfinished .string)
  | c :: _ =>
    eat
    if c = '"' then pure none
    else if c = '\\' then some <$> escape hexEscape
    else if c.toNat < 0x20 then faultHere (.malformed .controlCharacter)
    else pure (some c)

/-- Reads one character of a string, or ends it. The characters so far stand in reverse order. -/
def stringStep (acc : List Char) : Reader (List Char ⊕ String) := do
  match ← stringChar with
  | some c => pure (.inl (c :: acc))
  | none => pure (.inr (String.ofList acc.reverse))

/-- The rest of a string after its opening quote. -/
def stringBody : Reader String := repeated stringStep []

/-- Skips the rest of a string. The halves of escaped pairs need not match here. -/
def skipString : Reader Unit :=
  repeated (fun _ : Unit => do
    match ← get with
    | [] => faultHere (.unfinished .string)
    | c :: _ =>
      if c.toNat < 0x20 then faultHere (.malformed .controlCharacter)
      else
        eat
        if c = '"' then pure (.inr ())
        else if c = '\\' then do
          let _ ← escape ((fun _ => ' ') <$> fourHexDigits)
          pure (.inl ())
        else pure (.inl ())) ()

/-! ## Numbers -/

/-- A number as it was written: its sign, its digits as one number, the power of ten they are to be
multiplied by, and whether there was neither a point nor an exponent. -/
structure Literal where
  negative : Bool
  digits : List Char
  exponent : Int
  whole : Bool
  text : String

/-- The digits as one natural number. -/
def Literal.significand (l : Literal) : Nat := (Text.natOfDigits? l.digits).getD 0

/-- Whether the number is below the bound from which on it would be rounded to infinity. -/
def Literal.isFinite (l : Literal) : Bool :=
  let bound := Nat.pow 2 1024 - Nat.pow 2 970
  if l.significand = 0 then true
  else if 0 ≤ l.exponent then
    l.exponent ≤ 400 && l.significand * Nat.pow 10 l.exponent.toNat < bound
  else
    l.digits.length ≤ (-l.exponent).toNat || l.significand < bound * Nat.pow 10 (-l.exponent).toNat

/-- The exponent of a number, if there is one: its text and its value. -/
def exponentPart (ended : Cause) : Reader (List Char × Int × Bool) := do
  match ← get with
  | e :: more =>
    if e = 'e' ∨ e = 'E' then
      eat
      let sign := match more.head? with
        | some '+' => some '+'
        | some '-' => some '-'
        | _ => none
      if sign.isSome then eat
      match ← get with
      | [] => faultHere ended
      | c :: rest =>
        eat
        if c.isDigit then
          let ds := rest.takeWhile Char.isDigit
          set (rest.dropWhile Char.isDigit)
          let n : Int := (Text.natOfDigits? (c :: ds)).getD 0
          pure (e :: (sign.toList ++ c :: ds), if sign = some '-' then -n else n, true)
        else faultHere (.malformed .invalidNumber)
    else pure ([], 0, false)
  | [] => pure ([], 0, false)

/-- The digits after the point of a number, if there is one. -/
def fractionPart (ended : Cause) : Reader (Option (List Char)) := do
  match ← get with
  | '.' :: rest =>
    let ds := rest.takeWhile Char.isDigit
    set (rest.dropWhile Char.isDigit)
    if ds.isEmpty then
      match ← get with
      | [] => faultAhead ended
      | _ => faultAhead (.malformed .invalidNumber)
    else pure (some ds)
  | _ => pure none

/-- A number after its sign. A leading zero stands alone; the cause given is for texts that end
too early. -/
def number (ended : Cause) (negative : Bool) : Reader Literal := do
  match ← get with
  | [] => faultHere ended
  | c :: rest =>
    eat
    if !c.isDigit then faultHere (.malformed .invalidNumber)
    else
      if c = '0' then
        if (rest.head?.map Char.isDigit).getD false then faultAhead (.malformed .invalidNumber)
      let ds := if c = '0' then [] else rest.takeWhile Char.isDigit
      set (if c = '0' then rest else rest.dropWhile Char.isDigit)
      let fraction? ← fractionPart ended
      let (exponentText, exponent, hasExponent) ← exponentPart ended
      let fraction := fraction?.getD []
      let point := if fraction?.isSome then ['.'] else []
      pure {
        negative
        digits := c :: ds ++ fraction
        exponent := exponent - fraction.length
        whole := fraction?.isNone && !hasExponent
        text := String.ofList ((if negative then ['-'] else []) ++ c :: ds ++ point ++ fraction ++ exponentText)
      }

/-- A number in a place where it counts: it must not be too large to be held. -/
def heldNumber (negative : Bool) : Reader Literal := do
  let l ← number (.unfinished .value) negative
  if l.isFinite then pure l else faultHere (.malformed .numberOutOfRange)

/-- How a number is named: as an integer while it fits into 64 bits, signed if it is negative. -/
def Literal.found (l : Literal) : Found :=
  let fits :=
    if l.negative then 0 < l.significand ∧ 2 * l.significand ≤ Text.bound64
    else l.significand < Text.bound64
  if l.whole ∧ fits then .integer l.text else .fraction l.text

/-! ## Values of the wrong type, and values that are skipped -/

/-- Stops at a value of another type than the one expected. -/
def wrongType (expected : String) : Reader α := do
  let misfit (found : Found) : Reader α := faultHere (.misfit (.wrongType found expected))
  match ← get with
  | 'n' :: _ => eat; word ['u', 'l', 'l']; misfit .null
  | 't' :: _ => eat; word ['r', 'u', 'e']; misfit (.boolean true)
  | 'f' :: _ => eat; word ['a', 'l', 's', 'e']; misfit (.boolean false)
  | '-' :: _ => do
    eat
    let l ← heldNumber true
    misfit l.found
  | '"' :: _ => do
    eat
    let s ← stringBody
    misfit (.string s)
  | '[' :: _ => misfit .list
  | '\x7b' :: _ => misfit .object
  | c :: _ =>
    if c.isDigit then do
      let l ← heldNumber false
      misfit l.found
    else faultAhead (.malformed .expectedValue)
  | [] => faultAhead (.malformed .expectedValue)

/-- The two kinds of containers. -/
inductive Container where
  | list
  | object
  deriving DecidableEq

/-- What is skipped next: a value, or what follows an element, where a comma is allowed or not. The
list holds the containers that are open, the innermost first. -/
inductive Skipping where
  | value (opened : List Container)
  | more (comma : Bool) (innermost : Container) (outer : List Container)

/-- After a skipped value. -/
def Skipping.after : List Container → Skipping ⊕ Unit
  | [] => .inr ()
  | innermost :: outer => .inl (.more true innermost outer)

def colon : Reader Unit := do
  match ← peek? with
  | some ':' => eat
  | some _ => faultAhead (.malformed .expectedColon)
  | none => faultAhead (.unfinished .object)

/-- Skips the name of a member and its colon. -/
def skipName : Reader Unit := do
  match ← peek? with
  | some '"' => eat; skipString; colon
  | some _ => faultAhead (.malformed .keyNotString)
  | none => faultAhead (.unfinished .object)

/-- Skips one token of a value. -/
def skipStep : Skipping → Reader (Skipping ⊕ Unit)
  | .value opened => do
    let done : Reader (Skipping ⊕ Unit) := pure (Skipping.after opened)
    match ← peek? with
    | none => faultAhead (.unfinished .value)
    | some 'n' => eat; word ['u', 'l', 'l']; done
    | some 't' => eat; word ['r', 'u', 'e']; done
    | some 'f' => eat; word ['a', 'l', 's', 'e']; done
    | some '"' => eat; skipString; done
    | some '[' => eat; pure (.inl (.more false .list opened))
    | some '\x7b' => eat; pure (.inl (.more false .object opened))
    | some c =>
      if c = '-' ∨ c.isDigit then do
        if c = '-' then eat
        let _ ← number (.malformed .invalidNumber) (c = '-')
        done
      else faultAhead (.malformed .expectedValue)
  | .more comma innermost outer => do
    let again : Reader (Skipping ⊕ Unit) := do
      if innermost = .object then skipName
      pure (.inl (.value (innermost :: outer)))
    match ← peek? with
    | none => faultAhead (.unfinished (if innermost = .object then .object else .list))
    | some c =>
      if c = ',' ∧ comma then do eat; again
      else if c = (if innermost = .object then '\x7d' else ']') then do eat; pure (Skipping.after outer)
      else if comma then
        faultAhead (.malformed (if innermost = .object then .expectedObjectCommaOrEnd
          else .expectedListCommaOrEnd))
      else again

def skipValue : Reader Unit := repeated skipStep (.value [])

/-! ## Values that are asked for -/

def text : Reader String := do
  match ← peek? with
  | none => faultAhead (.unfinished .value)
  | some '"' => eat; stringBody
  | some _ => wrongType "a string"

def textOrNull : Reader (Option String) := do
  match ← peek? with
  | some 'n' => eat; word ['u', 'l', 'l']; pure none
  | _ => some <$> text

/-- A natural number below a bound. What is expected is named in words. -/
def natural (bound : Nat) (expected : String) : Reader Nat := do
  let check (l : Literal) : Reader Nat :=
    match l.found with
    | .integer literal =>
      if l.negative then faultHere (.misfit (.wrongValue (.integer literal) expected))
      else if l.significand < bound then pure l.significand
      else faultHere (.misfit (.wrongValue (.integer literal) expected))
    | found => faultHere (.misfit (.wrongType found expected))
  match ← peek? with
  | none => faultAhead (.unfinished .value)
  | some c =>
    if c = '-' then do
      eat
      check (← heldNumber true)
    else if c.isDigit then do check (← heldNumber false)
    else wrongType expected

/-- Whether another element of a list follows; the comma before it is read. -/
def nextElement (first : Bool) : Reader Bool := do
  match ← peek? with
  | none => faultAhead (.unfinished .list)
  | some c =>
    if c = ']' then pure false
    else if first then pure true
    else if c = ',' then
      eat
      match ← peek? with
      | some ']' => faultAhead (.malformed .trailingComma)
      | some _ => pure true
      | none => faultAhead (.unfinished .value)
    else faultAhead (.malformed .expectedListCommaOrEnd)

def endList : Reader Unit := do
  match ← peek? with
  | some ']' => eat
  | some ',' =>
    eat
    match ← peek? with
    | some ']' => faultAhead (.malformed .trailingComma)
    | _ => faultAhead (.malformed .trailingCharacters)
  | some _ => faultAhead (.malformed .trailingCharacters)
  | none => faultAhead (.unfinished .list)

/-- Whether another member of an object follows; the comma before it is read. -/
def nextMember (first : Bool) : Reader Bool := do
  match ← peek? with
  | none => faultAhead (.unfinished .object)
  | some c =>
    if c = '\x7d' then pure false
    else if first then
      if c = '"' then pure true else faultAhead (.malformed .keyNotString)
    else if c = ',' then
      eat
      match ← peek? with
      | some '"' => pure true
      | some '\x7d' => faultAhead (.malformed .trailingComma)
      | some _ => faultAhead (.malformed .keyNotString)
      | none => faultAhead (.unfinished .value)
    else faultAhead (.malformed .expectedObjectCommaOrEnd)

def endObject : Reader Unit := do
  match ← peek? with
  | some '\x7d' => eat
  | some ',' => faultAhead (.malformed .trailingComma)
  | some _ => faultAhead (.malformed .trailingCharacters)
  | none => faultAhead (.unfinished .object)

/-- Stops because of the content of an object, after the end of the object if that comes next. -/
def misfitInObject (m : Misfit) : Reader α := do
  match ← peek? with
  | some '\x7d' => eat; faultHere (.misfit m)
  | _ => faultHere (.misfit m)

/-- Stops because of the content of a list, after the end of the list or the comma if that comes
next. -/
def misfitInList (m : Misfit) : Reader α := do
  match ← peek? with
  | some ']' => eat; faultHere (.misfit m)
  | some ',' => do
    eat
    let _ ← peek?
    faultHere (.misfit m)
  | _ => faultHere (.misfit m)

/-- Reads one member of an object, or ends it. The state tells whether no member has been read yet. -/
def memberStep (member : σ → String → Reader σ) (s : σ × Bool) : Reader ((σ × Bool) ⊕ σ) := do
  if ← nextMember s.2 then
    eat
    let name ← stringBody
    let s' ← member s.1 name
    pure (.inl (s', false))
  else pure (.inr s.1)

/-- The members of an object up to its end, each handed to a function with its name. -/
def members (member : σ → String → Reader σ) (init : σ) : Reader σ :=
  repeated (memberStep member) (init, true)

/-- Reads one element of a list, or ends it. The elements so far stand in reverse order. -/
def elementStep (element : Reader α) (s : List α × Bool) : Reader ((List α × Bool) ⊕ List α) := do
  if ← nextElement s.2 then
    let a ← element
    pure (.inl (a :: s.1, false))
  else pure (.inr s.1.reverse)

def elements (element : Reader α) : Reader (List α) := repeated (elementStep element) ([], true)

/-- The limit on containers inside each other is reached. -/
def tooDeep : Reader α := faultAhead (.malformed .nestedTooDeeply)

/-- A list, when so many more containers may be opened. -/
def listOf (room : Nat) (element : Reader α) : Reader (List α) := do
  match ← peek? with
  | none => faultAhead (.unfinished .value)
  | some '[' =>
    if room = 0 then tooDeep
    else
      eat
      let found ← elements element
      endList
      pure found
  | some _ => wrongType "a sequence"

/-- The members of an object in order, when so many more containers may be opened. -/
def mapOf (room : Nat) (value : Reader α) : Reader (List (String × α)) := do
  match ← peek? with
  | none => faultAhead (.unfinished .value)
  | some '\x7b' =>
    if room = 0 then tooDeep
    else
      eat
      let found ← members (fun acc name => do
        colon
        let a ← value
        pure ((name, a) :: acc)) []
      endObject
      pure found.reverse
  | some _ => wrongType "a map"

/-- An object whose values are strings. -/
def textMap (room : Nat) : Reader (List (String × String)) := mapOf room text

/-- A record: an object with named members or a list of the fields in order. -/
def record (room : Nat) (expected : String) (asObject asList : Reader α) : Reader α := do
  match ← peek? with
  | none => faultAhead (.unfinished .value)
  | some '\x7b' =>
    if room = 0 then tooDeep
    else
      eat
      let found ← asObject
      endObject
      pure found
  | some '[' =>
    if room = 0 then tooDeep
    else
      eat
      let found ← asList
      endList
      pure found
  | some _ => wrongType expected

/-- A member that may occur once: its value, unless one was read before. -/
def once {β : Type} (name : String) (before : Option β) (value : Reader β) : Reader (Option β) := do
  if before.isSome then misfitInObject (.duplicateField name)
  colon
  some <$> value

/-- A member that nobody asks for. -/
def ignored : Reader Unit := do
  colon
  skipValue

/-! ## Values of any type -/

/-- A value inside which so many containers may be opened, itself included; what is inside a container is
read by the given reader. -/
def valueWith (room : Nat) (inner : Reader Value) : Reader Value := do
  match ← peek? with
  | none => faultAhead (.unfinished .value)
  | some 'n' => eat; word ['u', 'l', 'l']; pure .null
  | some 't' => eat; word ['r', 'u', 'e']; pure (.boolean true)
  | some 'f' => eat; word ['a', 'l', 's', 'e']; pure (.boolean false)
  | some '"' => Value.string <$> text
  | some '[' => Value.array <$> listOf room inner
  | some '\x7b' => Value.object <$> mapOf room inner
  | some c =>
    if c = '-' then do
      eat
      return .number (← heldNumber true).text
    else if c.isDigit then return .number (← heldNumber false).text
    else faultAhead (.malformed .expectedValue)

/-- A value inside which so many containers may be opened. -/
def value : Nat → Reader Value
  | 0 => valueWith 0 tooDeep
  | room + 1 => valueWith (room + 1) (value room)

end Reader

/-- How many containers may be open inside each other. -/
def nestingLimit : Nat := 127

/-- Reads a whole text. -/
def decode {α : Type} (reader : Reader α) (text : String) : Except Fault α :=
  (do
    let a ← reader
    match ← Reader.peek? with
    | none => pure a
    | some _ => Reader.faultAhead (.malformed .trailingCharacters) : Reader α).run' text.toList

def Value.ofText (text : String) : Except Fault Value := decode (Reader.value nestingLimit) text

end DialectConversion.Json
