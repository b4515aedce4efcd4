import DialectConversion.Sql.Token

/-! Characters of a text with their places, and the ways in which runs of them are cut off: classes
of characters, given beginnings, quoted text, comments. -/
namespace DialectConversion.Sql
set_option autoImplicit false

/-- A character and its place. -/
abbrev Spot := Char × Location

namespace Spot

def listing : Location → List Char → List Spot
  | _, [] => []
  | l, c :: rest => (c, l) :: listing (l.after c) rest

def chars (spots : List Spot) : List Char := spots.map fun s => s.1

/-- The characters without their places, as text. -/
def text (spots : List Spot) : String := String.ofList (chars spots)

/-- The longest run of characters of a class at the beginning, and what follows it. -/
def run (p : Char → Bool) (spots : List Spot) : String × List Spot :=
  (text (spots.takeWhile fun s => p s.1), spots.dropWhile fun s => p s.1)

/-- What follows a given beginning. -/
def after? : List Char → List Spot → Option (List Spot)
  | [], spots => some spots
  | _ :: _, [] => none
  | c :: cs, (d, _) :: rest => if c = d then after? cs rest else none

def first? (spots : List Spot) : Option Char := spots.head?.map fun s => s.1

/-- The place of the first character, or of the end of the text where no character is left. -/
def placeIn (finish : Location) : List Spot → Location
  | [] => finish
  | (_, l) :: _ => l

/-- The text up to the closing quote and what follows it. A doubled quote stands for one. -/
def quoted (quote : Char) : List Spot → Option (List Char × List Spot)
  | [] => none
  | (c, _) :: rest =>
    if c = quote then
      match rest with
      | [] => some ([], [])
      | (d, l) :: tail =>
        if d = quote then (quoted quote tail).map fun (cs, left) => (quote :: cs, left)
        else some ([], (d, l) :: tail)
    else (quoted quote rest).map fun (cs, left) => (c :: cs, left)

/-- The text up to a closing mark, and what follows the mark. -/
def upTo (mark : List Char) : List Spot → Option (List Char × List Spot)
  | [] => none
  | s :: rest =>
    match after? mark (s :: rest) with
    | some left => some ([], left)
    | none => (upTo mark rest).map fun (cs, left) => (s.1 :: cs, left)

/-- The rest of a comment that is open at the given depth below the outermost, with its closing
bracket, and what follows it. -/
def commentRest : Nat → List Spot → Option (List Char × List Spot)
  | _, [] => none
  | _, [_] => none
  | depth, (c, _) :: (d, l) :: rest =>
    if c = '/' ∧ d = '*' then
      (commentRest (depth + 1) rest).map fun (cs, left) => (c :: d :: cs, left)
    else if c = '*' ∧ d = '/' then
      match depth with
      | 0 => some ([c, d], rest)
      | outer + 1 => (commentRest outer rest).map fun (cs, left) => (c :: d :: cs, left)
    else (commentRest depth ((d, l) :: rest)).map fun (cs, left) => (c :: cs, left)

end Spot
end DialectConversion.Sql
