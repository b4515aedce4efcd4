import DialectConversion.Sql.Keyword
import DialectConversion.Sql.ParseError
import DialectConversion.Sql.Syntax
import DialectConversion.Sql.Token

/-! Reading from a list of tokens: single tokens, keywords and names, choice with going back, and
repetition. Repetition ends because each round takes a token; the number of tokens left bounds it. -/
namespace DialectConversion.Sql
set_option autoImplicit false

/-- Where in a statement a token is read, as far as the meaning of words depends on it. -/
inductive ReadingMode where
  | plain
  /-- In a CONNECT BY clause, where PRIOR is an operator. -/
  | hierarchical
  /-- In the definition of a column, where NOT NULL is a constraint. -/
  | columnDefinition
  deriving DecidableEq

/-- The tokens still to be read. -/
structure Cursor where
  tokens : List PlacedToken
  mode : ReadingMode := .plain

/-- A reader of syntax. -/
abbrev Parser := StateT Cursor (Except Rejection)

namespace Parser

/-! ## Single tokens -/

/-- The token so many tokens ahead, none beyond the end. -/
def ahead? (n : Nat) : Parser (Option Token) := do
  pure ((← get).tokens[n]?.map fun t => t.token)

/-- The next token, none at the end. -/
def peek? : Parser (Option Token) := ahead? 0

/-- Passes the next token. -/
def advance : Parser Unit := modify fun c => { c with tokens := c.tokens.drop 1 }

/-- A rejection with a message of its own. -/
def reject {α : Type} (message : String) : Parser α := do
  throw (.grammatical message (← get).tokens.length)

/-- The place of the next token as error messages name it, empty at the end. -/
def here : Parser String := do
  pure (match (← get).tokens with
    | t :: _ => t.place.described
    | [] => "")

/-- The message that says what was expected instead of the next token. -/
def expectation (what : String) : Parser String := do
  let found := match (← get).tokens with
    | t :: _ => t.token.described
    | [] => "EOF"
  pure ("Expected: " ++ what ++ ", found: " ++ found ++ (← here))

/-- A rejection that says what was expected instead of the next token. -/
def expected {α : Type} (what : String) : Parser α := do reject (← expectation what)

/-- A rejection that says what was expected instead of the next token, which counts as passed. -/
def expectedPast {α : Type} (what : String) : Parser α := do
  let message ← expectation what
  advance *> reject message

/-- Whether the next token is a symbol. -/
def atSymbol (spelling : String) : Parser Bool := do pure ((← peek?) == some (.symbol spelling))

/-- Passes a symbol if it comes next. -/
def symbol? (spelling : String) : Parser Bool := do
  if ← atSymbol spelling then advance *> pure true else pure false

/-- Passes a symbol that has to come next. -/
def symbol (spelling : String) : Parser Unit := do
  unless ← symbol? spelling do expected spelling

/-- The key of the word that comes next, empty for all else. -/
def key : Parser String := do pure (((← peek?).bind Token.key?).getD "")

/-- Whether the next tokens are these keywords. -/
def atKeywords (words : List String) : Parser Bool := do
  let tokens := (← get).tokens
  pure (words == (tokens.take words.length).filterMap fun t => t.token.key?)

/-- Passes these keywords if they all come next. -/
def keywords? (words : List String) : Parser Bool := do
  if ← atKeywords words then
    modify fun c => { c with tokens := c.tokens.drop words.length }
    pure true
  else pure false

def keyword? (word : String) : Parser Bool := keywords? [word]

/-- Passes keywords that have to come next. -/
def keywords : List String → Parser Unit
  | [] => pure ()
  | word :: rest => do
    unless ← keyword? word do expected word
    keywords rest

def keyword (word : String) : Parser Unit := keywords [word]

/-- Passes the next token if it is one of these keywords. -/
def oneOf? (words : List String) : Parser (Option String) := do
  let word ← key
  if words.contains word then advance *> pure (some word) else pure none

/-- Passes the first of several runs of keywords that comes next. -/
def phrase? : List (List String) → Parser (Option String)
  | [] => pure none
  | words :: rest => do
    if ← keywords? words then pure (some (Text.joined " " words)) else phrase? rest

/-- Passes one of these keywords, which has to come next. -/
def oneOf (words : List String) : Parser String := do
  match ← oneOf? words with
  | some word => pure word
  | none => expected ("one of " ++ Text.joined " or " words)

/-! ## Choice and repetition -/

/-- What a reader yields, or none and nothing read where it fails. Nesting that is too deep fails
for good. -/
def attempt {α : Type} (p : Parser α) : Parser (Option α) := fun c =>
  match p c with
  | .ok (a, c') => .ok (some a, c')
  | .error .nesting => .error .nesting
  | .error _ => .ok (none, c)

/-- What a reader yields, or none where it fails. In both cases the tokens that it passed stay passed. -/
def pass {α : Type} (p : Parser α) : Parser (Option α) := fun c =>
  match p c with
  | .ok (a, c') => .ok (some a, c')
  | .error (.grammatical _ left) => .ok (none, { c with tokens := c.tokens.drop (c.tokens.length - left) })
  | .error e => .error e

/-- Reads in another mode. -/
def within {α : Type} (mode : ReadingMode) (p : Parser α) : Parser α := do
  let outer := (← get).mode
  modify fun c => { c with mode := mode }
  let a ← p
  modify fun c => { c with mode := outer }
  pure a

/-- Extends a value step by step, within so many steps, until a step yields none. -/
def extendWithin {α : Type} (step : α → Parser (Option α)) : Nat → α → Parser α
  | 0, a => pure a
  | steps + 1, a => do
    match ← step a with
    | some b => extendWithin step steps b
    | none => pure a

/-- Extends a value step by step until a step yields none. Every step but the last takes a token. -/
def extend {α : Type} (step : α → Parser (Option α)) (a : α) : Parser α := do
  extendWithin step ((← get).tokens.length + 1) a

/-- Reads one item or more for as long as a reader of what stands between them says so. -/
def separated {α : Type} (more : Parser Bool) (p : Parser α) : Parser (List α) := do
  let reversed ← extend (fun items => do
    if ← more then pure (some ((← p) :: items)) else pure none) [← p]
  pure reversed.reverse

/-- Reads one item or more with commas between them. -/
def listOf {α : Type} (p : Parser α) : Parser (List α) := separated (symbol? ",") p

/-- Reads between parentheses. -/
def parenthesized {α : Type} (p : Parser α) : Parser α := do
  symbol "("
  let a ← p
  symbol ")"
  pure a

/-- Reads items with commas between them, or none at all where a symbol closes the list at once. -/
def listUntil {α : Type} (closing : String) (p : Parser α) : Parser (List α) := do
  if ← atSymbol closing then pure [] else listOf p

/-- Fills the first free place whose reader yields something, none where no reader does. -/
def fillFirst? : List (Parser (Option String)) → List (Option String) →
    Parser (Option (List (Option String)))
  | read :: others, none :: found => do
    match ← read with
    | some text => pure (some (some text :: found))
    | none => pure ((← fillFirst? others found).map fun more => none :: more)
  | _ :: others, some text :: found => do
    pure ((← fillFirst? others found).map fun more => some text :: more)
  | _, _ => pure none

/-- Clauses that come in any order, each once at most. They are listed in the order of their readers. -/
def onceEach (readers : List (Parser (Option String))) : Parser (List String) := do
  let found ← extend (fillFirst? readers) (readers.map fun _ => none)
  pure (found.filterMap id)

/-- A word in a list of words if it comes next. -/
def word? (word : String) : Parser (List String) := do
  if ← keyword? word then pure [word] else pure []

/-- Words in a list of words if they all come next. -/
def words? (words : List String) : Parser (List String) := do
  if ← keywords? words then pure [Text.joined " " words] else pure []

/-- A clause that starts with a keyword, none where the keyword does not come next. -/
def clause? (words : List String) (content : Parser String) : Parser (Option String) := do
  if ← keywords? words then
    pure (some (Text.joined " " words ++ " " ++ (← content)))
  else pure none

/-! ## Names and literals -/

/-- The name that a token is, none where it is no name. Text in single quotes counts as a quoted
name. -/
def nameOf? : Token → Option Ident
  | .word text quote? _ => some ⟨text, quote?⟩
  | .literal .plain content => some ⟨content, some '\''⟩
  | _ => none

/-- A name, in the words of a rejection for what has to come next. -/
def nameAs (what : String) : Parser Ident := do
  match (← peek?).bind nameOf? with
  | some name => advance *> pure name
  | none => expectedPast what

def name : Parser Ident := nameAs "identifier"

/-- Items in parentheses, where nothing else may come next. -/
def columnList {α : Type} (p : Parser α) : Parser (List α) := do
  unless ← atSymbol "(" do expected "a list of columns in parentheses"
  parenthesized (listOf p)

/-- The texts of items in parentheses with their parentheses. -/
def inParentheses (items : List String) : String := "(" ++ Text.joined ", " items ++ ")"

/-- Plain names in parentheses, as text. -/
def nameList : Parser String := do
  pure (inParentheses ((← columnList name).map Ident.text))

/-- Plain names in parentheses, as text, none where no parenthesis comes next. -/
def optionalNames : Parser (List String) := do
  if ← atSymbol "(" then pure [← nameList] else pure []

def dottedName : Parser (List Ident) := separated (symbol? ".") name

def dottedNameText : Parser String := do pure (dottedText (← dottedName))

/-- A character of text with sequences, in its canonical spelling. -/
def escapedChar (c : Char) : String :=
  if c = '\'' then "\\'" else if c = '\\' then "\\\\" else if c = '\n' then "\\n"
  else if c = '\t' then "\\t" else if c = '\r' then "\\r" else c.toString

/-- A code point in upper-case hexadecimal digits, at least so many. -/
def codePoint (width : Nat) (c : Char) : String :=
  let digits := (Nat.toDigits 16 c.toNat).map Char.toUpper
  String.ofList (List.replicate (width - digits.length) '0' ++ digits)

/-- A character of text with code points, in its canonical spelling. -/
def codedChar (c : Char) : String :=
  if c = '\'' then "''" else if c = '\\' then "\\\\" else if c.toNat < 0x80 then c.toString
  else if c.toNat < 0x10000 then "\\" ++ codePoint 4 c
  else "\\+" ++ codePoint 6 c

def literalText : TextForm → String → String
  | .plain, content => Text.betweenQuotes '\'' content
  | .marked mark quote, content => mark ++ quote ++ content ++ quote
  | .escaped, content => "E'" ++ String.join (content.toList.map escapedChar) ++ "'"
  | .unicode, content => "U&'" ++ String.join (content.toList.map codedChar) ++ "'"
  | .dollar tag, content => "$" ++ tag ++ "$" ++ content ++ "$" ++ tag ++ "$"

/-- The name of a placeholder behind a colon or an at-sign, which has to follow it at once. -/
def placeholderName (gap? : Option Gap) : Parser String := do
  match gap? with
  | some gap => reject ("Expected: placeholder, found: " ++ gap.described ++ gap.place.described)
  | none =>
    match ← peek? with
    | some (.word text _ _) => advance *> pure text
    | some (.number digits false) => advance *> pure digits
    | _ => expected "placeholder"

/-- The canonical text of a literal or placeholder that comes next, none for all else. -/
def value? : Parser (Option String) := do
  match (← get).tokens with
  | [] => pure none
  | ⟨token, _, gap?⟩ :: _ =>
    match token with
    | .number digits long => advance *> pure (some (Token.numberText digits long))
    | .literal form content => advance *> pure (some (literalText form content))
    | .placeholder spelling => advance *> pure (some spelling)
    | .word text quote? key =>
      if key = "NULL" then advance *> pure (some "NULL")
      else if key = "TRUE" then advance *> pure (some "true")
      else if key = "FALSE" then advance *> pure (some "false")
      else if quote? = some '"' then advance *> pure (some (Text.betweenQuotes '"' text))
      else pure none
    | .symbol mark =>
      if mark = ":" ∨ mark = "@" then
        advance
        pure (some (mark ++ (← placeholderName gap?)))
      else pure none

/-- A literal or a placeholder. -/
def value : Parser String := do
  match ← value? with
  | some spelling => pure spelling
  | none =>
    match ← peek? with
    | some (.word _ none _) => expectedPast "a concrete value"
    | some (.word _ (some _) _) => expectedPast "A value?"
    | _ => expectedPast "a value"

/-- A number or a placeholder. -/
def numericValue : Parser String := do
  match ← peek? with
  | some (.literal _ _) => expected "literal number"
  | some (.word _ quote? key) =>
    if quote? = some '"' ∨ ["NULL", "TRUE", "FALSE"].contains key then expected "literal number"
    else value
  | _ => value

/-- A number or a placeholder, with or without a sign in front of it. -/
def signedValue : Parser String := do
  if ← symbol? "+" then pure ("+" ++ (← numericValue))
  else if ← symbol? "-" then pure ("-" ++ (← numericValue))
  else numericValue

/-- The content of a text, or a word that is no keyword. -/
def literalString : Parser String := do
  match ← peek? with
  | some (.word text quote? key) =>
    if quote?.isNone ∧ Keyword.isKeyword key then expected "literal string"
    else advance *> pure text
  | some (.literal .plain content) | some (.literal .escaped content)
  | some (.literal .unicode content) => advance *> pure content
  | _ => expected "literal string"

/-! ## Numbers -/

/-- Numbers of a size, and how error messages name the size. -/
structure NumberSize where
  name : String
  bound : Nat

def NumberSize.unsigned : NumberSize := ⟨"u64", Text.bound64⟩

def NumberSize.signed : NumberSize := ⟨"i64", Text.bound64 / 2⟩

/-- The number that comes next, if it is whole and of a size. -/
def sizedNumber (size : NumberSize) (what : String) : Parser Nat := do
  match ← peek? with
  | some (.number digits _) =>
    match Text.boundedNumber size.bound 0 digits.toList with
    | .ok n => advance *> pure n
    | .error fault =>
      let reason := match fault with
        | .digit => "invalid digit found in string"
        | .size => "number too large to fit in target type"
      reject ("Could not parse '" ++ digits ++ "' as " ++ size.name ++ ": " ++ reason ++ (← here))
  | _ => expected what

/-- A whole number, without leading zeros. -/
def wholeNumber : Parser String := do pure (toString (← sizedNumber .unsigned "literal int"))

/-- A whole number with or without a sign. A plus sign is dropped. -/
def signedNumber : Parser String := do
  let negative ← symbol? "-"
  unless negative do
    let _ ← symbol? "+"
  let n ← sizedNumber .signed "number"
  pure ((if negative ∧ n ≠ 0 then "-" else "") ++ toString n)

end Parser

/-! ## Nested syntax -/

/-- Readers for syntax one level deeper inside other syntax. -/
structure Deeper where
  /-- An expression whose operators bind more strongly than given. -/
  operand : Nat → Parser Expr
  query : Parser Query
  statement : Parser Statement
  /-- The definition of a column, as text. -/
  column : Parser String

namespace Deeper

def expr (d : Deeper) : Parser Expr := d.operand 0

def exprText (d : Deeper) : Parser String := do pure (← d.expr).text

def exprTexts (d : Deeper) : Parser (List String) := Parser.listOf d.exprText

def queryText (d : Deeper) : Parser String := do pure (← d.query).text

end Deeper
end DialectConversion.Sql
