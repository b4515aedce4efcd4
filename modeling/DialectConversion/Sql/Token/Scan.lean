import DialectConversion.Sql.ParseError
import DialectConversion.Sql.Token.Escape
import DialectConversion.Text.Alphabetic

/-! Cutting SQL text into tokens. The whole text is cut before any of it is parsed; white space and
comments only separate tokens. Comments run from two dashes to the end of the line, or between the
usual brackets, which nest. -/
namespace DialectConversion.Sql.Token
set_option autoImplicit false
open Text Spot

/-! ## Words and symbols -/

def startsWord (c : Char) : Bool := isAlphabetic c || c == '_' || c == '#' || c == '@'

def continuesWord (c : Char) : Bool := startsWord c || c.isDigit || c == '$'

/-- The symbols of several characters, longer ones in front of their beginnings, with the spelling
they are known by. -/
def longSymbols : List (String × String) := [
  ("!~~*", "!~~*"), ("!~~", "!~~"), ("!~*", "!~*"), ("~~*", "~~*"), ("||/", "||/"), ("<=>", "<=>"),
  ("->>", "->>"), ("#>>", "#>>"), ("!~", "!~"), ("~~", "~~"), ("~*", "~*"), ("||", "||"), ("|/", "|/"),
  ("|>", "|>"), ("=>", "=>"), ("==", "=="), ("!=", "<>"), ("<>", "<>"), ("<=", "<="), ("<<", "<<"),
  ("<@", "<@"), (">=", ">="), (">>", ">>"), ("::", "::"), (":=", ":="), ("->", "->"), ("//", "//"),
  ("&&", "&&"), ("!!", "!!"), ("^@", "^@"), ("#-", "#-"), ("#>", "#>"), ("@>", "@>"), ("@?", "@?")]

/-- The symbol of several characters at the beginning, and what follows it. -/
def longSymbol? (spots : List Spot) : Option (Token × List Spot) :=
  longSymbols.findSome? fun (written, spelling) =>
    (after? written.toList spots).map fun left => (symbol spelling, left)

/-- A word whose first characters are given. -/
def scanWord (beginning : String) (rest : List Spot) : Token × List Spot :=
  let (more, left) := run continuesWord rest
  (unquoted (beginning ++ more), left)

/-- A word that starts with one or two at-signs or with a number sign, or such signs alone. The
character behind them belongs to the word, whatever it is, unless it is a blank; behind a single
at-sign quotes do not belong to it either. -/
def scanSigned (sign : String) (quotesEnd : Bool) (rest : List Spot) : Token × List Spot :=
  match rest with
  | [] => (symbol sign, rest)
  | (c, _) :: tail =>
    if c = ' ' ∨ (quotesEnd ∧ (c = '\'' ∨ c = '"' ∨ c = '\x60')) then (symbol sign, rest)
    else scanWord (sign ++ c.toString) tail

/-! ## Quoted text -/

/-- A rejection of the text at a place. -/
def reject {α : Type} (message : String) (place : Location) : Except Rejection α :=
  .error (.lexical (message ++ place.described))

/-- The token for quoted text, or a rejection at the place given. -/
def textToken (form : TextForm) (place : Location) (message : String) :
    Option (List Char × List Spot) → Except Rejection (Token × List Spot)
  | some (cs, left) => .ok (literal form (String.ofList cs), left)
  | none => reject message place

/-- What an unfinished text is rejected with. -/
def unterminated : String := "Unterminated string literal"

/-- Text that keeps backslashes, behind its letter and from its opening quote on. Three quotes in a
row open text that ends at the next three. -/
def scanVerbatim (finish : Location) (quote : Char) (spots : List Spot) :
    Except Rejection (Token × List Spot) :=
  let three := [quote, quote, quote]
  match after? three spots with
  | some rest =>
    textToken (.marked "R" (String.ofList three)) (placeIn finish rest) unterminated (upTo three rest)
  | none =>
    match after? [quote, quote] spots with
    | some rest => .ok (literal (.marked "R" quote.toString) "", rest)
    | none =>
      let rest := spots.drop 1
      textToken (.marked "R" quote.toString) (placeIn finish rest) unterminated (quoted quote rest)

/-- Quoted text with a letter in front that says how it is written, none where no such text starts. -/
def scanMarked? (finish : Location) (c : Char) (place : Location) (rest : List Spot) :
    Option (Except Rejection (Token × List Spot)) :=
  let letter := c.toUpper
  match rest with
  | ('\'', open_) :: tail =>
    match letter with
    | 'N' => some (textToken (.marked "N" "'") open_ unterminated (quoted '\'' tail))
    | 'B' => some (textToken (.marked "B" "'") open_ unterminated (quoted '\'' tail))
    | 'X' => some (textToken (.marked "X" "'") open_ unterminated (backslashQuoted tail))
    | 'E' => some (textToken .escaped place "Unterminated encoded string literal" (escaped tail))
    | 'R' => some (scanVerbatim finish '\'' rest)
    | _ => none
  | ('"', open_) :: tail =>
    match letter with
    | 'B' => some (textToken (.marked "B" "\"") open_ unterminated (quoted '"' tail))
    | 'R' => some (scanVerbatim finish '"' rest)
    | _ => none
  | ('&', _) :: ('\'', _) :: tail =>
    if letter = 'U' then
      match coded finish tail with
      | .ok content => some (textToken .unicode place unterminated (some content))
      | .error (message, wrong) => some (reject message wrong)
    else none
  | _ => none

/-- A placeholder with a dollar sign, or text between two tags of dollar signs. -/
def scanDollar (finish : Location) (rest : List Spot) : Except Rejection (Token × List Spot) :=
  let (tag, left) := run (fun c => isAlphabetic c || isNumeric c || c == '_') rest
  match after? ['$'] left with
  | none => .ok (placeholder ("$" ++ tag), left)
  | some body =>
    let message := if tag.isEmpty then "Unterminated dollar-quoted string"
      else "Unterminated dollar-quoted, expected $"
    textToken (.dollar tag) finish message (upTo ("$" ++ tag ++ "$").toList body)

/-! ## Numbers -/

def scanExponent (spots : List Spot) : String × List Spot :=
  match spots with
  | (e, _) :: rest =>
    if e = 'e' ∨ e = 'E' then
      let (sign, rest) := match rest with
        | (c, l) :: tail => if c = '+' ∨ c = '-' then (c.toString, tail) else ("", (c, l) :: tail)
        | [] => ("", [])
      let (digits, left) := run Char.isDigit rest
      if digits.isEmpty then ("", spots) else (e.toString ++ sign ++ digits, left)
    else ("", spots)
  | [] => ("", [])

/-- A number, or a lone point. Hexadecimal digits after 0x count as quoted text. -/
def scanNumber (spots : List Spot) : Token × List Spot :=
  let (whole, rest) := run Char.isDigit spots
  match (if whole = "0" then after? ['x'] rest else none) with
  | some rest =>
    let (digits, left) := run (fun c => (digitValue? 16 c).isSome) rest
    (literal (.marked "X" "'") digits, left)
  | none =>
    let (mantissa, rest) := match after? ['.'] rest with
      | some rest =>
        let (fraction, left) := run Char.isDigit rest
        (whole ++ "." ++ fraction, left)
      | none => (whole, rest)
    if mantissa = "." then (symbol ".", rest)
    else
      let (exponent, rest) := scanExponent rest
      match after? ['L'] rest with
      | some left => (number (mantissa ++ exponent) true, left)
      | none => (number (mantissa ++ exponent) false, rest)

/-! ## Whole texts -/

/-- The token that starts with a character that is neither white space nor the start of a comment.
A word right in front is what lets an underscore follow a point. -/
def scan (finish : Location) (afterWord : Bool) (c : Char) (place : Location) (rest : List Spot) :
    Except Rejection (Token × List Spot) :=
  let spots := (c, place) :: rest
  if c = '\'' then textToken .plain place unterminated (quoted '\'' rest)
  else if c = '"' ∨ c = '\x60' then
    match quoted c rest with
    | some (cs, left) => .ok (word (String.ofList cs) (some c) "", left)
    | none => reject ("Expected close delimiter '" ++ c.toString ++ "' before EOF.") place
  else if c = '.' ∧ first? rest = some '_' then
    if afterWord then .ok (symbol ".", rest) else reject "Unexpected character '_'" place
  else if c.isDigit || c == '.' then .ok (scanNumber spots)
  else if c = '?' then
    let (digits, left) := run isNumeric rest
    .ok (placeholder ("?" ++ digits), left)
  else if c = '$' then scanDollar finish rest
  else
    match scanMarked? finish c place rest with
    | some result => result
    | none =>
      match longSymbol? spots with
      | some result => .ok result
      | none =>
        if c = '#' then .ok (scanSigned "#" false rest)
        else if c = '@' then
          match after? ['@'] rest with
          | some rest => .ok (scanSigned "@@" false rest)
          | none => .ok (scanSigned "@" true rest)
        else if startsWord c then .ok (scanWord c.toString rest)
        else .ok (symbol c.toString, rest)

/-- One piece of white space or one comment, as error messages name it, and what follows it. None
where a token or the end of the text comes next. -/
def scanGap (finish : Location) (spots : List Spot) : Except Rejection (Option (String × List Spot)) :=
  match after? ['-', '-'] spots, after? ['/', '*'] spots with
  | some comment, _ =>
    let (line, left) := run (· != '\n') comment
    .ok (some ("--" ++ line ++ text (left.take 1), left.drop 1))
  | none, some comment =>
    match commentRest 0 comment with
    | some (cs, left) => .ok (some ("/*" ++ String.ofList cs, left))
    | none => reject "Unexpected EOF while in a multi-line comment" finish
  | none, none =>
    match spots with
    | (c, _) :: rest =>
      if c = '\t' then .ok (some ("\t", rest))
      else if c = '\n' ∨ c = '\r' then .ok (some ("\n", rest))
      else if isWhiteSpace c then .ok (some (" ", rest))
      else .ok none
    | [] => .ok none

/-- The tokens of the characters, each found within the given number of steps. -/
def scanEach (finish : Location) : Nat → Bool → List Spot → Except Rejection (List PlacedToken)
  | 0, _, _ => .ok []
  | _ + 1, _, [] => .ok []
  | steps + 1, afterWord, (c, place) :: rest => do
    match ← scanGap finish ((c, place) :: rest) with
    | some (_, left) => scanEach finish steps false left
    | none =>
      let (token, left) ← scan finish afterWord c place rest
      let gap? ← scanGap finish left
      let tokens ← scanEach finish steps token.key?.isSome left
      pure ({
        token := token
        place := place
        gap? := gap?.map fun (described, _) => ⟨described, placeIn finish left⟩ } :: tokens)

def ofText (sql : String) : Except Rejection (List PlacedToken) :=
  let cs := sql.toList
  let finish := cs.foldl Location.after .start
  scanEach finish (cs.length + 1) false (Spot.listing .start cs)

end DialectConversion.Sql.Token
