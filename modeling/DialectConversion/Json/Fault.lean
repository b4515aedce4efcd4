import DialectConversion.Text.Basic
import DialectConversion.Text.Printable

/-! Why a JSON text was not accepted, where, and how that is worded. -/
namespace DialectConversion.Json
set_option autoImplicit false

/-- What was being read when the text ended. -/
inductive Unfinished where
  | value
  | list
  | object
  | string
  deriving DecidableEq

/-- How a text breaks the grammar. -/
inductive Malformed where
  | expectedColon
  | expectedListCommaOrEnd
  | expectedObjectCommaOrEnd
  | expectedWord
  | expectedValue
  | invalidEscape
  | invalidNumber
  | numberOutOfRange
  | controlCharacter
  | keyNotString
  | loneSurrogate
  | endOfHexEscape
  | trailingComma
  | trailingCharacters
  | nestedTooDeeply
  deriving DecidableEq

/-- A value as it is named when another kind of value was expected. -/
inductive Found where
  | null
  | boolean (value : Bool)
  | integer (literal : String)
  | fraction (literal : String)
  | string (text : String)
  | list
  | object
  deriving DecidableEq

/-- How a well-formed value fails to be what is asked for. -/
inductive Misfit where
  | wrongType (found : Found) (expected : String)
  | wrongValue (found : Found) (expected : String)
  | wrongLength (length : Nat) (expected : String)
  | unknownVariant (name : String) (known : List String)
  | missingField (name : String)
  | duplicateField (name : String)
  deriving DecidableEq

/-- Why reading stopped. -/
inductive Cause where
  | unfinished (what : Unfinished)
  | malformed (how : Malformed)
  | misfit (how : Misfit)
  deriving DecidableEq

/-- The three classes of causes. -/
inductive Category where
  | eof
  | syntaxError
  | data
  deriving DecidableEq

def Cause.category : Cause → Category
  | unfinished _ => .eof
  | malformed _ => .syntaxError
  | misfit _ => .data

def Category.word : Category → String
  | eof => "eof"
  | syntaxError => "syntax"
  | data => "data"

def Unfinished.name : Unfinished → String
  | value => "a value"
  | list => "a list"
  | object => "an object"
  | string => "a string"

def Malformed.message : Malformed → String
  | expectedColon => "expected `:`"
  | expectedListCommaOrEnd => "expected `,` or `]`"
  | expectedObjectCommaOrEnd => "expected `,` or `\x7d`"
  | expectedWord => "expected ident"
  | expectedValue => "expected value"
  | invalidEscape => "invalid escape"
  | invalidNumber => "invalid number"
  | numberOutOfRange => "number out of range"
  | controlCharacter => "control character (\\u0000-\\u001F) found while parsing a string"
  | keyNotString => "key must be a string"
  | loneSurrogate => "lone leading surrogate in hex escape"
  | endOfHexEscape => "unexpected end of hex escape"
  | trailingComma => "trailing comma"
  | trailingCharacters => "trailing characters"
  | nestedTooDeeply => "recursion limit exceeded"

def Found.name : Found → String
  | null => "null"
  | boolean value => "boolean `" ++ (if value then "true" else "false") ++ "`"
  | integer literal => "integer `" ++ literal ++ "`"
  | fraction literal => "floating point `" ++ literal ++ "`"
  | string text => "string " ++ Text.quotedListing text
  | list => "sequence"
  | object => "map"

def Misfit.message : Misfit → String
  | wrongType found expected => "invalid type: " ++ found.name ++ ", expected " ++ expected
  | wrongValue found expected => "invalid value: " ++ found.name ++ ", expected " ++ expected
  | wrongLength length expected => "invalid length " ++ toString length ++ ", expected " ++ expected
  | unknownVariant name known =>
    "unknown variant `" ++ name ++ "`, expected one of " ++
      Text.joined ", " (known.map fun k => "`" ++ k ++ "`")
  | missingField name => "missing field `" ++ name ++ "`"
  | duplicateField name => "duplicate field `" ++ name ++ "`"

def Cause.message : Cause → String
  | unfinished what => "EOF while parsing " ++ what.name
  | malformed how => how.message
  | misfit how => how.message

/-- A cause, how many characters were left unread when it was found, and whether the next of them
is the one it is about. -/
structure Fault where
  cause : Cause
  left : Nat
  ahead : Bool := false
  deriving DecidableEq

/-- Line, from one, and column, in bytes, after the given characters. -/
def lineAndColumn (cs : List Char) : Nat × Nat :=
  cs.foldl (fun p c => if c = '\n' then (p.1 + 1, 0) else (p.1, p.2 + c.utf8Size)) (1, 0)

/-- Where a fault in a text is. -/
def Fault.position (f : Fault) (text : String) : Nat × Nat :=
  let cs := text.toList
  let read := cs.take (cs.length - f.left)
  let place := lineAndColumn read
  if f.ahead && f.left != 0 then (place.1, place.2 + 1) else place

/-- The wording of a fault in a text, with its line and column. -/
def Fault.message (f : Fault) (text : String) : String :=
  let place := f.position text
  f.cause.message ++ " at line " ++ toString place.1 ++ " column " ++ toString place.2

end DialectConversion.Json
