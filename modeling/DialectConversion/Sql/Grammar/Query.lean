import DialectConversion.Sql.Grammar.Expression
import DialectConversion.Sql.Grammar.Select

/-! Queries: common table expressions, selects and their combinations, and the clauses that sort,
cut and lock the rows. -/
namespace DialectConversion.Sql.Grammar.Query
set_option autoImplicit false
open Sql.Parser

/-! ## Common table expressions -/

def common (deeper : Deeper) : Parser String := do
  let table ← name
  let columns ← if ← atKeywords ["AS"] then pure [] else columnNames deeper
  keyword "AS"
  let query ← parenthesized deeper.queryText
  let source? ← clause? ["FROM"] do pure (← name).text
  pure (Text.joined " " ([table.text] ++ (if columns.isEmpty then [] else [inParentheses columns]) ++
    ["AS (" ++ query ++ ")"] ++ source?.toList))

def with? (deeper : Deeper) : Parser (Option String) := do
  if ← keyword? "WITH" then
    let recursive ← if ← keyword? "RECURSIVE" then pure "RECURSIVE " else pure ""
    pure (some ("WITH " ++ recursive ++ Text.joined ", " (← listOf (common deeper))))
  else pure none

/-! ## Bodies -/

/-- How strongly a set operator binds, zero for other words. -/
def setPrecedence (word : String) : Nat :=
  if word = "INTERSECT" then 20
  else if word = "UNION" ∨ word = "EXCEPT" ∨ word = "MINUS" then 10
  else 0

def setQuantifier : Parser (List String) := do
  let found? ← phrase? [["DISTINCT", "BY", "NAME"], ["BY", "NAME"], ["ALL", "BY", "NAME"], ["ALL"],
    ["DISTINCT"]]
  pure found?.toList

/-- The name of a table, with a schema in front of it or without, in place of the rows of a body. Three
tokens are taken in either case, and quotes are dropped. -/
def wholeTable : Parser String := do
  let tableName? ← ahead? 0
  let sign? ← ahead? 1
  let word? : Option Token → Option String
    | some (.word text _ _) => some text
    | _ => none
  let text ← match word? tableName?, sign? == some (.symbol "."), word? (← ahead? 2) with
    | some schema, true, some table => pure (schema ++ "." ++ table)
    | none, true, _ => expected "Schema name"
    | some _, true, none => do
      advance *> advance
      expected "Table name"
    | some table, false, _ => pure table
    | none, false, _ => expected "Table name"
  advance *> advance *> advance
  pure ("TABLE " ++ text)

/-- The body of a query without set operators. -/
def simpleBody (deeper : Deeper) : Parser Body := do
  let word ← key
  if word = "SELECT" ∨ word = "FROM" then
    .select <$> Select.read deeper (Expression.interval deeper)
  else if ← symbol? "(" then
    let query ← deeper.queryText
    symbol ")"
    pure (.other ("(" ++ query ++ ")"))
  else if ← keyword? "VALUES" then .other <$> Table.rows deeper
  else if ← keyword? "TABLE" then .other <$> wholeTable
  else expected "SELECT, VALUES, or a subquery in the query body"

/-- The body of a query with the set operators that bind more strongly than given. The right side
of an operator is a body again; so many operators may stand inside each other. -/
def bodyWithin (deeper : Deeper) : Nat → Nat → Parser Body
  | 0, _ => expected "SELECT, VALUES, or a subquery in the query body"
  | steps + 1, precedence => do
    extend (fun left => do
      let word ← key
      if setPrecedence word ≤ precedence then pure none
      else
        advance
        let quantifier ← setQuantifier
        let right ← bodyWithin deeper steps (setPrecedence word)
        pure (some (.other (Text.joined " " ([left.text, word] ++ quantifier ++ [right.text])))))
      (← simpleBody deeper)

def body (deeper : Deeper) : Parser Body := do
  bodyWithin deeper ((← get).tokens.length + 1) 0

/-! ## Clauses behind the body -/

/-- How the columns of rows in filled gaps are filled. -/
def interpolations (deeper : Deeper) : Parser (List String) := do
  if ← keyword? "INTERPOLATE" then
    if ← atSymbol "(" then
      let items ← parenthesized (listUntil ")" do
        let column ← name
        let value? ← clause? ["AS"] deeper.exprText
        pure (Text.joined " " (column.text :: value?.toList)))
      pure ["INTERPOLATE " ++ inParentheses items]
    else pure ["INTERPOLATE"]
  else pure []

def order? (deeper : Deeper) : Parser (Option String) := clause? ["ORDER", "BY"] do
  let items ← deeper.sortItems
  pure (Text.joined " " (Text.joined ", " items :: (← interpolations deeper)))

def offset? (deeper : Deeper) : Parser (Option String) := clause? ["OFFSET"] do
  let amount ← deeper.exprText
  pure (Text.joined " " (amount :: (← oneOf? ["ROWS", "ROW"]).toList))

/-- How many rows are kept, and from which on. Keeping all rows is the default and is dropped. -/
def limits (deeper : Deeper) : Parser (List String) := do
  let before? ← offset? deeper
  if ← keyword? "LIMIT" then
    let amount? ← if ← keyword? "ALL" then pure none else some <$> deeper.exprText
    let amount := (amount?.map fun amount => "LIMIT " ++ amount).toList
    if before?.isNone && amount?.isSome && (← atSymbol ",") then
      advance
      pure [Text.joined ", " (amount ++ [← deeper.exprText])]
    else
      let groups? ← clause? ["BY"] (Text.joined ", " <$> deeper.exprTexts)
      let offset? ← if before?.isSome then pure before? else offset? deeper
      pure (amount ++ offset?.toList ++ groups?.toList)
  else pure before?.toList

def fetch? : Parser (Option String) := do
  if ← keyword? "FETCH" then
    let _ ← oneOf? ["FIRST", "NEXT"]
    let amount ← if (← oneOf? ["ROW", "ROWS"]).isSome then pure []
      else do
        let amount ← value
        let percent ← if ← keyword? "PERCENT" then pure ["PERCENT"] else pure []
        let _ ← oneOf? ["ROW", "ROWS"]
        pure (amount :: percent)
    let ties? ← phrase? [["ONLY"], ["WITH", "TIES"]]
    pure (some (Text.joined " " (["FETCH FIRST"] ++ amount ++ ["ROWS", ties?.getD "ONLY"])))
  else pure none

/-! ### Locks and forms of output -/

/-- A name in parentheses and single quotes. -/
def quotedLabel : Parser String := do pure ("('" ++ (← parenthesized literalString) ++ "')")

/-- The options behind a form of output, each behind a comma. A comma may also stand in front of
something else. -/
def outputOptions (option? : Parser (Option (String × String))) : Parser (List (String × String)) := do
  let reversed ← extend (fun found => do
    if ← symbol? "," then
      match ← option? with
      | some option => pure (some (option :: found))
      | none => pure (some found)
    else pure none) []
  pure reversed

/-- The texts of options in their fixed order, each option once, as it was given last. -/
def ordered (labels : List String) (reversed : List (String × String)) : List String :=
  labels.filterMap fun label => (reversed.find? fun option => option.1 == label).map Prod.snd

/-- An option that is a run of keywords, or a run of keywords with a label in parentheses. -/
def outputOption? (labels : List String) : Parser (Option (String × String)) := do
  if ← keyword? "ROOT" then pure (some ("ROOT", "ROOT" ++ (← quotedLabel)))
  else if labels.contains "BINARY" && (← atKeywords ["BINARY"]) then
    keywords ["BINARY", "BASE64"]
    pure (some ("BINARY", "BINARY BASE64"))
  else pure ((← oneOf? labels).map fun word => (word, word))

/-- Rows as elements of a document, behind the keywords. -/
def elementOutput : Parser String := do
  let form ← match ← oneOf? ["RAW", "AUTO", "EXPLICIT", "PATH"] with
    | some form =>
      if (form = "RAW" ∨ form = "PATH") ∧ (← atSymbol "(") = true then do pure (form ++ (← quotedLabel))
      else pure form
    | none => reject "Expected FOR XML [RAW | AUTO | EXPLICIT | PATH ]"
  let options ← outputOptions (outputOption? ["ELEMENTS", "BINARY", "TYPE"])
  pure (Text.joined ", " (("FOR XML " ++ form) ::
    ordered ["BINARY", "TYPE", "ROOT", "ELEMENTS"] options))

/-- Rows as objects of a document, behind the keywords. -/
def objectOutput : Parser String := do
  match ← oneOf? ["AUTO", "PATH"] with
  | some form => do
    let options ← outputOptions (outputOption? ["INCLUDE_NULL_VALUES", "WITHOUT_ARRAY_WRAPPER"])
    pure (Text.joined ", " (("FOR JSON " ++ form) ::
      ordered ["ROOT", "INCLUDE_NULL_VALUES", "WITHOUT_ARRAY_WRAPPER"] options))
  | none => reject "Expected FOR JSON [AUTO | PATH ]"

def lock : Parser String := do
  let strength ← oneOf ["UPDATE", "SHARE"]
  let table? ← clause? ["OF"] dottedNameText
  let waiting? ← phrase? [["NOWAIT"], ["SKIP", "LOCKED"]]
  pure (Text.joined " " (["FOR", strength] ++ table?.toList ++ waiting?.toList))

/-- The locks on rows, and the form of the output, which ends them. -/
def locks : Parser (List String) := do
  let (reversed, _) ← extend (fun (found, ended) => do
    if ended then pure none
    else if ← keyword? "FOR" then
      match ← oneOf? ["XML", "JSON", "BROWSE"] with
      | some "XML" => do pure (some ((← elementOutput) :: found, true))
      | some "JSON" => do pure (some ((← objectOutput) :: found, true))
      | some _ => pure (some ("FOR BROWSE" :: found, true))
      | none => do pure (some ((← lock) :: found, false))
    else pure none) ([], false)
  pure reversed.reverse

def format? : Parser (Option String) := clause? ["FORMAT"] do
  if ← keyword? "NULL" then pure "NULL" else pure (← name).text

/-- A query, given a reader for the statements that change rows. Behind such a statement no clause
follows. -/
def read (deeper : Deeper) (change? : Parser (Option String)) : Parser Query := do
  let with? ← with? deeper
  match ← change? with
  | some change => pure { with? := with?, body := .other change }
  | none =>
    let body ← body deeper
    let order? ← order? deeper
    let limits ← limits deeper
    let settings? ← settings? deeper
    let fetch? ← fetch?
    let locks ← locks
    let format? ← format?
    pure {
      with? := with?
      body := body
      clauses := order?.toList ++ limits ++ settings?.toList ++ fetch?.toList ++ locks ++ format?.toList }

end DialectConversion.Sql.Grammar.Query
