import DialectConversion.Sql.Grammar.DataType
import DialectConversion.Text.Printable

/-! Operators behind an operand: how strongly each of them binds, and what follows it. All of them are
read from left to right. -/
namespace DialectConversion.Sql.Grammar
set_option autoImplicit false
open Sql.Parser

namespace Precedence

def point : Nat := 100
def cast : Nat := 50
def timeZone : Nat := 41
def product : Nat := 40
def sum : Nat := 30
def exclusiveOr : Nat := 24
def bitAnd : Nat := 23
def bitShift : Nat := 22
def bitOr : Nat := 21
def comparison : Nat := 20
def pattern : Nat := 19
def isTest : Nat := 17
def arrow : Nat := 16
def not : Nat := 15
def and : Nat := 10
def or : Nat := 5

end Precedence

namespace Operator

/-! ## How strongly operators bind -/

/-- The operators between two operands that are symbols: spelling, precedence, and the spelling in
canonical text. -/
def symbols : List (String × Nat × String) :=
  [("==", Precedence.comparison, "="), ("+", Precedence.sum, "+"), ("-", Precedence.sum, "-"),
    ("|", Precedence.bitOr, "|"), ("&&", Precedence.bitOr, "&&"), ("&", Precedence.bitAnd, "&"),
    ("^@", Precedence.cast, "^@")] ++
  (["=", "<>", "<", "<=", ">", ">=", "<=>", ":=", "~", "~*", "!~", "!~*", "~~", "~~*", "!~~",
    "!~~*"].map fun s => (s, Precedence.comparison, s)) ++
  (["*", "/", "%", "||", "//"].map fun s => (s, Precedence.product, s)) ++
  (["^", "<<", ">>"].map fun s => (s, Precedence.bitShift, s)) ++
  (["->", "->>", "#>", "#>>", "@>", "<@", "#-", "@?", "@@"].map fun s => (s, Precedence.arrow, s))

/-- The symbols that bind like operators and yet are none between two operands: spelling, precedence,
and what error messages call them. -/
def idleSymbols : List (String × Nat × String) := [
  ("#", Precedence.bitShift, "Sharp"), ("!", Precedence.cast, "ExclamationMark"),
  ("[", Precedence.cast, "LBracket"), ("@", Precedence.bitOr, "AtSign")]

/-- The operators between two operands that are words. -/
def words : List (String × Nat) := [
  ("AND", Precedence.and), ("OR", Precedence.or), ("XOR", Precedence.exclusiveOr),
  ("OVERLAPS", Precedence.comparison)]

/-- The words that start a test behind an operand, or would start one. -/
def testWords : List (String × Nat) := [
  ("IS", Precedence.isTest), ("IN", Precedence.comparison), ("BETWEEN", Precedence.comparison),
  ("LIKE", Precedence.pattern), ("ILIKE", Precedence.pattern), ("RLIKE", Precedence.pattern),
  ("REGEXP", Precedence.pattern), ("SIMILAR", Precedence.pattern), ("MATCH", Precedence.pattern),
  ("MEMBER", Precedence.pattern), ("OPERATOR", Precedence.comparison), ("DIV", Precedence.product)]

/-- The operators that ANY, ALL and SOME may follow. -/
def comparisons : List String := [
  "=", "<>", "<", "<=", ">", ">=", "~", "~*", "!~", "!~*", "~~", "~~*", "!~~", "!~~*"]

/-- The precedence of NOT between operands, by the word behind it. -/
def notPrecedence (inColumn : Bool) (word : String) : Nat :=
  if word = "IN" ∨ word = "BETWEEN" then Precedence.comparison
  else if ["LIKE", "ILIKE", "RLIKE", "REGEXP", "MATCH", "SIMILAR", "MEMBER"].contains word then
    Precedence.pattern
  else if word = "NULL" ∧ ¬ inColumn then Precedence.isTest
  else 0

/-- The precedence of the operator that comes next, zero where no operator does. -/
def nextPrecedence : Parser Nat := do
  let key1 := ((← ahead? 1).bind Token.key?).getD ""
  let key2 := ((← ahead? 2).bind Token.key?).getD ""
  match ← peek? with
  | some (.word _ _ key) =>
    if key = "AT" then pure (if key1 = "TIME" ∧ key2 = "ZONE" then Precedence.timeZone else 0)
    else if key = "NOT" then pure (notPrecedence ((← get).mode = .columnDefinition) key1)
    else pure (((words ++ testWords).lookup key).getD 0)
  | some (.symbol spelling) =>
    if spelling = "::" then pure Precedence.cast
    else if spelling = "." then pure Precedence.point
    else pure ((((symbols ++ idleSymbols).lookup spelling).map fun o => o.1).getD 0)
  | _ => pure 0

/-! ## Tests -/

/-- The tests behind IS that take no operand. -/
def isTests : List (List String) := [
  ["NULL"], ["NOT", "NULL"], ["TRUE"], ["NOT", "TRUE"], ["FALSE"], ["NOT", "FALSE"], ["UNKNOWN"],
  ["NOT", "UNKNOWN"]]

def isTest (deeper : Deeper) (operand : String) : Parser Expr := do
  match ← phrase? isTests with
  | some test => pure (.other (operand ++ " IS " ++ test))
  | none =>
    match ← phrase? [["DISTINCT", "FROM"], ["NOT", "DISTINCT", "FROM"]] with
    | some test => pure (.other (operand ++ " IS " ++ test ++ " " ++ (← deeper.exprText)))
    | none =>
      let negated? ← oneOf? ["NOT"]
      let form? ← oneOf? ["NFC", "NFD", "NFKC", "NFKD"]
      if ← keyword? "NORMALIZED" then
        pure (.other (Text.joined " " ([operand, "IS"] ++ negated?.toList ++ form?.toList ++
          ["NORMALIZED"])))
      else expected "[NOT] NULL | TRUE | FALSE | DISTINCT | [form] NORMALIZED FROM after IS"

def escape : Parser (List String) := do
  if ← keyword? "ESCAPE" then pure ["ESCAPE " ++ (← value)] else pure []

def membership (deeper : Deeper) (test : String) : Parser Expr := do
  if ← keyword? "UNNEST" then
    let array ← parenthesized deeper.exprText
    pure (.other (test ++ " UNNEST(" ++ array ++ ")"))
  else
    let content ← parenthesized do
      match ← attempt deeper.queryText with
      | some query => pure query
      | none => Text.joined ", " <$> deeper.exprTexts
    pure (.other (test ++ " (" ++ content ++ ")"))

/-- A test behind an operand that starts with NOT or with the word of the test. -/
def wordTest (deeper : Deeper) (operand : String) : Parser Expr := do
  let negated ← keyword? "NOT"
  let test (word : String) := operand ++ (if negated then " NOT " else " ") ++ word
  let regexp? ← oneOf? ["REGEXP"]
  let rlike? ← oneOf? ["RLIKE"]
  let null ← if (← get).mode = .columnDefinition then pure false else keyword? "NULL"
  match regexp?.or rlike? with
  | some word => pure (.other (test word ++ " " ++ (← deeper.operand Precedence.pattern).text))
  | none =>
    if negated ∧ null then pure (.other (operand ++ " IS NOT NULL"))
    else if ← keyword? "IN" then membership deeper (test "IN")
    else if ← keyword? "BETWEEN" then
      let low ← deeper.operand Precedence.comparison
      keyword "AND"
      let high ← deeper.operand Precedence.comparison
      pure (.other (test "BETWEEN" ++ " " ++ low.text ++ " AND " ++ high.text))
    else
      match ← oneOf? ["LIKE", "ILIKE"] with
      | some word => do
        let any? ← oneOf? ["ANY"]
        let pattern ← deeper.operand Precedence.pattern
        pure (.other (Text.joined " " ([test word] ++ any?.toList ++ [pattern.text] ++ (← escape))))
      | none =>
        if ← keywords? ["SIMILAR", "TO"] then
          let pattern ← deeper.operand Precedence.pattern
          pure (.other (Text.joined " " ([test "SIMILAR TO", pattern.text] ++ (← escape))))
        else expected "IN or BETWEEN after NOT"

/-! ## Operators between two operands -/

/-- What follows a comparison with ANY, ALL or SOME. A query brings its own parentheses. -/
def quantified (deeper : Deeper) (left operator place quantifier : String) (precedence : Nat) :
    Parser Expr := do
  let start ← get
  symbol "("
  let query := ["SELECT", "WITH"].contains (← key)
  let right ← if query then do
      set start
      deeper.operand precedence
    else do
      let inner ← deeper.operand precedence
      symbol ")"
      pure inner
  if comparisons.contains operator then
    let text := match right with
      | .subquery _ => right.text
      | _ => "(" ++ right.text ++ ")"
    pure (.other (left ++ " " ++ operator ++ " " ++ quantifier ++ text))
  else
    reject ("Expected one of [=, >, <, =>, =<, !=, ~, ~*, !~, !~*, ~~, ~~*, !~~, !~~*] as " ++
      "comparison operator, found: " ++ operator ++ place)

/-- The right side of an operator. -/
def binary (deeper : Deeper) (left : Expr) (operator place : String) (precedence : Nat) :
    Parser Expr := do
  match ← oneOf? ["ANY", "ALL", "SOME"] with
  | some quantifier => quantified deeper left.text operator place quantifier precedence
  | none => .binary left operator <$> deeper.operand precedence

/-- An operator with a name of its own: tokens with points between them, in parentheses. -/
def namedOperator : Parser String := do
  let part : Parser String := do
    match ← peek? with
    | some token => advance *> pure token.described
    | none => pure "EOF"
  let parts ← parenthesized (separated (symbol? ".") part)
  pure ("OPERATOR(" ++ Text.joined "." parts ++ ")")

/-- What a token that is no operator between operands is rejected with. -/
def noOperator {α : Type} (token : Option Token) (place : String) : Parser α :=
  let described := match token with
    | some (.word text _ key) =>
      "Word(Word \x7b value: " ++ Text.quotedListing text ++ ", quote_style: None, keyword: " ++ key ++
        " \x7d)"
    | some (.symbol spelling) => ((idleSymbols.lookup spelling).map fun o => o.2).getD spelling
    | _ => ""
  reject ("No infix parser for token " ++ described ++ place)

/-- The operator that comes next with its right operand, put behind a left operand. -/
def infixed (deeper : Deeper) (left : Expr) (precedence : Nat) : Parser Expr := do
  let token? ← peek?
  let place ← here
  match token? with
  | some (.symbol spelling) =>
    advance
    if spelling = "::" then pure (.other (left.text ++ "::" ++ (← DataType.text deeper)))
    else
      match symbols.lookup spelling with
      | some (_, operator) => binary deeper left operator place precedence
      | none => noOperator token? place
  | some (.word _ _ key) =>
    if (words.lookup key).isSome then advance *> binary deeper left key place precedence
    else
      match key with
      | "OPERATOR" => do
        advance
        let operator ← namedOperator
        binary deeper left operator place precedence
      | "IS" => advance *> isTest deeper left.text
      | "AT" => do
        keywords ["AT", "TIME", "ZONE"]
        pure (.other (left.text ++ " AT TIME ZONE " ++ (← deeper.operand precedence).text))
      | "MEMBER" => do
        advance
        unless ← keyword? "OF" do expected "OF after MEMBER"
        pure (.other (left.text ++ " MEMBER OF(" ++ (← parenthesized deeper.exprText) ++ ")"))
      | "DIV" | "MATCH" => noOperator token? place
      | _ => wordTest deeper left.text
  | _ => noOperator token? place

end Operator
end DialectConversion.Sql.Grammar
