/-! JSON values and their two written layouts. The compact layout has no white space; the indented
one puts every element and member on a line of its own, two spaces a level. -/
namespace DialectConversion.Json
set_option autoImplicit false

/-- A JSON value. Numbers are kept as they are written, and members of an object in their order. -/
inductive Value where
  | null
  | boolean (b : Bool)
  | number (literal : String)
  | string (s : String)
  | array (elements : List Value)
  | object (members : List (String × Value))

/-- The hexadecimal digit of a value below sixteen, in lower case. -/
def hexDigit (n : Nat) : Char := Nat.digitChar n

/-- A character as it stands inside a JSON string. -/
def escapedChar (c : Char) : List Char :=
  if c = '"' then ['\\', '"']
  else if c = '\\' then ['\\', '\\']
  else if c = '\x08' then ['\\', 'b']
  else if c = '\x0c' then ['\\', 'f']
  else if c = '\n' then ['\\', 'n']
  else if c = '\r' then ['\\', 'r']
  else if c = '\t' then ['\\', 't']
  else if c.toNat < 0x20 then ['\\', 'u', '0', '0', hexDigit (c.toNat / 16), hexDigit (c.toNat % 16)]
  else [c]

def quoted (s : String) : String :=
  String.ofList ('"' :: (s.toList.flatMap escapedChar ++ ['"']))

namespace Value

/-- The member of an object with a given name, the first one if there are several. -/
def member? (name : String) : Value → Option Value
  | object members => members.lookup name
  | _ => none

mutual
/-- How many containers are open inside each other where a value nests most deeply. -/
def nesting : Value → Nat
  | array elements => nestingOfElements elements + 1
  | object members => nestingOfMembers members + 1
  | null | boolean _ | number _ | string _ => 0

def nestingOfElements : List Value → Nat
  | [] => 0
  | v :: rest => max (nesting v) (nestingOfElements rest)

def nestingOfMembers : List (String × Value) → Nat
  | [] => 0
  | (_, v) :: rest => max (nesting v) (nestingOfMembers rest)
end

/-! ## Layouts -/

mutual
/-- The value without white space. -/
def compact : Value → String
  | null => "null"
  | boolean b => if b then "true" else "false"
  | number literal => literal
  | string s => quoted s
  | array elements => "[" ++ compactElements elements ++ "]"
  | object members => "\x7b" ++ compactMembers members ++ "\x7d"

def compactElements : List Value → String
  | [] => ""
  | [v] => compact v
  | v :: w :: rest => compact v ++ "," ++ compactElements (w :: rest)

def compactMembers : List (String × Value) → String
  | [] => ""
  | [(name, v)] => quoted name ++ ":" ++ compact v
  | (name, v) :: w :: rest => quoted name ++ ":" ++ compact v ++ "," ++ compactMembers (w :: rest)
end

/-- A line break and the indentation of a level. -/
def lineBreak (level : Nat) : String := "\n" ++ String.ofList (List.replicate (2 * level) ' ')

mutual
/-- The value on lines of its own, its closing bracket at the given level. -/
def indented (level : Nat) : Value → String
  | null => "null"
  | boolean b => if b then "true" else "false"
  | number literal => literal
  | string s => quoted s
  | array [] => "[]"
  | array (v :: rest) => "[" ++ indentedElements (level + 1) (v :: rest) ++ lineBreak level ++ "]"
  | object [] => "\x7b\x7d"
  | object (m :: rest) =>
    "\x7b" ++ indentedMembers (level + 1) (m :: rest) ++ lineBreak level ++ "\x7d"

def indentedElements (level : Nat) : List Value → String
  | [] => ""
  | [v] => lineBreak level ++ indented level v
  | v :: w :: rest => lineBreak level ++ indented level v ++ "," ++ indentedElements level (w :: rest)

def indentedMembers (level : Nat) : List (String × Value) → String
  | [] => ""
  | [(name, v)] => lineBreak level ++ quoted name ++ ": " ++ indented level v
  | (name, v) :: w :: rest =>
    lineBreak level ++ quoted name ++ ": " ++ indented level v ++ "," ++
      indentedMembers level (w :: rest)
end

/-- The value in the indented layout. -/
def pretty (v : Value) : String := indented 0 v

end Value
end DialectConversion.Json
