import DialectConversion.Text.Basic

/-! Dotted names as text. Dots separate the segments of a name, except inside quotes; double quotes
and grave accents close with the character that opened them, an opening bracket closes with a closing
one. A quote that is doubled inside its own quotes closes and opens again at once, so it needs no
rule of its own here. -/
namespace DialectConversion.Name
set_option autoImplicit false
open Text

def graveAccent : Char := '\x60'

/-- The character that closes the quotes which a character opens. -/
def closing? (c : Char) : Option Char :=
  if c = '"' ∨ c = graveAccent then some c else if c = '[' then some ']' else none

/-- Puts a character in front of the first piece. -/
def pushFirst (c : Char) : List (List Char) → List (List Char)
  | [] => [[c]]
  | piece :: rest => (c :: piece) :: rest

/-- Cuts a name at the dots outside quotes; the first argument is the character that closes the
quotes the text starts in. -/
def pieces : Option Char → List Char → List (List Char)
  | _, [] => [[]]
  | none, c :: rest =>
    if c = '.' then [] :: pieces none rest else pushFirst c (pieces (closing? c) rest)
  | some q, c :: rest => pushFirst c (pieces (if c = q then none else some q) rest)

/-- The segments of a dotted name: its pieces without surrounding white space, blank ones left out. -/
def segmentsOf (cs : List Char) : List (List Char) :=
  ((pieces none cs).map trimmed).filter (fun piece => !piece.isEmpty)

def splitSegments (name : String) : List String :=
  (segmentsOf name.toList).map String.ofList

/-! ## Quoted segments -/

/-- The first character and what follows it, when the text stands in one pair of quotes. -/
def quotedBody? : List Char → Option (Char × List Char)
  | [] => none
  | first :: rest =>
    match rest.getLast? with
    | some last => if closing? first = some last then some (first, rest.dropLast) else none
    | none => none

/-- The text a segment stands for: what is inside its quotes with doubled quotes made single, where
brackets know no doubling, or the segment itself when it is not quoted. -/
def unquotedChars (cs : List Char) : List Char :=
  match quotedBody? cs with
  | some (first, body) => if first = '[' then body else undoubled first body
  | none => cs

/-- Whether a segment, apart from surrounding white space, stands in quotes. -/
def isQuoted (segment : String) : Bool := (quotedBody? (trimmed segment.toList)).isSome

/-- The text a segment stands for, without surrounding white space and quotes. -/
def unquote (segment : String) : String := String.ofList (unquotedChars (trimmed segment.toList))

end DialectConversion.Name
