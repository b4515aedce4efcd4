import DialectConversion.Text.Basic
import DialectConversion.Text.Digit

/-! Errors of the SQL reader as users see them: a message, the kind of error, and the place, which is
read off the message. -/
namespace DialectConversion.Sql
set_option autoImplicit false
open Text

/-- What the reader itself says when it gives up. -/
inductive Rejection where
  /-- The text could not be cut into tokens. -/
  | lexical (message : String)
  /-- The tokens make no sense. So many of them had not been passed. -/
  | grammatical (message : String) (left : Nat)
  /-- Something is nested too deeply. -/
  | nesting
  deriving DecidableEq

/-- A rejection for which another number of tokens counts as not passed. -/
def Rejection.leaving (left : Nat) : Rejection → Rejection
  | grammatical message _ => grammatical message left
  | other => other

def Rejection.message : Rejection → String
  | lexical message => "sql parser error: " ++ message
  | grammatical message _ => "sql parser error: " ++ message
  | nesting => "sql parser error: recursion limit exceeded"

structure Position where
  line : Nat
  column : Nat
  deriving DecidableEq

/-! ## Places named in messages -/

/-- What follows a given beginning. -/
def afterPrefix? (start : List Char) (cs : List Char) : Option (List Char) :=
  if start.isPrefixOf cs then some (cs.drop start.length) else none

/-- A run of digits, of any script, after optional white space, and what follows the run. -/
def digitRun? (cs : List Char) : Option (List Char × List Char) :=
  let rest := cs.dropWhile isWhiteSpace
  let run := rest.takeWhile isDecimalDigit
  if run.isEmpty then none else some (run, rest.dropWhile isDecimalDigit)

/-- The digits of line and column when the text begins by naming a place. -/
def placeAt? (cs : List Char) : Option (List Char × List Char) := do
  let rest ← afterPrefix? "Line:".toList cs
  let (line, rest) ← digitRun? rest
  let rest ← afterPrefix? [','] (rest.dropWhile isWhiteSpace)
  let rest ← afterPrefix? "Column:".toList (rest.dropWhile isWhiteSpace)
  let (column, _) ← digitRun? rest
  pure (line, column)

/-- The first place that a text names, as digits. -/
def firstPlace? : List Char → Option (List Char × List Char)
  | [] => placeAt? []
  | c :: rest =>
    match placeAt? (c :: rest) with
    | some place => some place
    | none => firstPlace? rest

/-- A number of at most 64 bits in ASCII digits. -/
def word64? (digits : List Char) : Option Nat :=
  (natOfDigits? digits).bind fun n => if n < bound64 then some n else none

/-- The place that a message names first; a place whose numbers cannot be held is none. -/
def positionIn? (message : String) : Option Position := do
  let (line, column) ← firstPlace? message.toList
  pure ⟨← word64? line, ← word64? column⟩

/-! ## Errors -/

inductive ParseErrorKind where
  | syntaxError
  | unexpectedEof
  | lexerError
  deriving DecidableEq

structure ParseError where
  message : String
  position? : Option Position := none
  kind : ParseErrorKind := .syntaxError
  deriving DecidableEq

/-- The kind of a rejection. Whatever speaks of the end of the input counts as such, in any case of
letters; only ASCII letters have e, o and f as their lower-case forms. -/
def Rejection.kind (r : Rejection) : ParseErrorKind :=
  match r with
  | lexical _ => .lexerError
  | _ => if containsIgnoringAsciiCase r.message "eof" then .unexpectedEof else .syntaxError

/-- The error that reports a rejection. -/
def ParseError.ofRejection (r : Rejection) : ParseError where
  message := r.message
  position? := positionIn? r.message
  kind := r.kind

/-- An error as it is shown, with its place in front of its message. -/
def ParseError.display (e : ParseError) : String :=
  match e.position? with
  | some p =>
    "Parse error at line " ++ toString p.line ++ ", column " ++ toString p.column ++ ": " ++ e.message
  | none => "Parse error: " ++ e.message

end DialectConversion.Sql
