import DialectConversion.Text.UpperCase

/-! The tokens of SQL text: words, numbers, quoted text, placeholders and symbols, each with the
place where it starts. -/
namespace DialectConversion.Sql
set_option autoImplicit false

/-- A place in a text. Lines and columns count from one, columns in characters. -/
structure Location where
  line : Nat
  column : Nat
  deriving DecidableEq

namespace Location

def start : Location := ⟨1, 1⟩

/-- The place after a character that stands at this place. -/
def after (l : Location) (c : Char) : Location :=
  if c = '\n' then ⟨l.line + 1, 1⟩ else ⟨l.line, l.column + 1⟩

/-- A place as error messages name it. -/
def described (l : Location) : String :=
  " at Line: " ++ toString l.line ++ ", Column: " ++ toString l.column

end Location

/-- The forms of quoted text. -/
inductive TextForm where
  /-- Text between single quotes. -/
  | plain
  /-- Text with letters in front of its quotes that stays as it is between them. -/
  | marked (mark quote : String)
  /-- Text with backslash sequences. -/
  | escaped
  /-- Text with code points in hexadecimal digits behind backslashes. -/
  | unicode
  /-- Text between two dollar signs with a tag between them. -/
  | dollar (tag : String)
  deriving DecidableEq

inductive Token where
  /-- A name or a keyword; its key is its upper-case form, empty for a quoted name. -/
  | word (text : String) (quote? : Option Char) (key : String)
  /-- A number as written, and whether the letter L marks it as long. -/
  | number (digits : String) (long : Bool)
  | literal (form : TextForm) (content : String)
  | placeholder (name : String)
  | symbol (spelling : String)
  deriving DecidableEq

namespace Token

def unquoted (text : String) : Token := word text none (Text.upper text)

/-- The key of a word; other tokens have none. -/
def key? : Token → Option String
  | word _ _ key => some key
  | _ => none

def numberText (digits : String) (long : Bool) : String := if long then digits ++ "L" else digits

/-- A token as error messages name it. -/
def described : Token → String
  | word text none _ => text
  | word text (some '[') _ => "[" ++ text ++ "]"
  | word text (some q) _ => q.toString ++ text ++ q.toString
  | number digits long => numberText digits long
  | literal .plain content => "'" ++ content ++ "'"
  | literal (.marked mark quote) content => mark ++ quote ++ content ++ quote
  | literal .escaped content => "E'" ++ content ++ "'"
  | literal .unicode content => "U&'" ++ content ++ "'"
  | literal (.dollar tag) content => "$" ++ tag ++ "$" ++ content ++ "$" ++ tag ++ "$"
  | placeholder name => name
  | symbol spelling => spelling

end Token

/-- White space or a comment between tokens: how error messages name it, and where it starts. -/
structure Gap where
  described : String
  place : Location
  deriving DecidableEq

/-- A token at its place, with the first piece of white space or the comment right behind it. -/
structure PlacedToken where
  token : Token
  place : Location
  gap? : Option Gap := none
  deriving DecidableEq

end DialectConversion.Sql
