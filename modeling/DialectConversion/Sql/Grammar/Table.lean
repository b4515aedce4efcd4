import DialectConversion.Sql.Grammar.Call
import DialectConversion.Sql.Grammar.Operator

/-! Tables in FROM clauses: named tables, queries in parentheses, calls, and joins of them, read as
their canonical text. -/
namespace DialectConversion.Sql.Grammar
set_option autoImplicit false
open Sql.Parser

/-- An alias: any name behind AS, or a name that is none of the closing keywords. -/
def alias? (closing : List String) : Parser (Option Ident) := do
  if ← keyword? "AS" then some <$> nameAs "an identifier after AS"
  else
    match ← peek? with
    | some token =>
      if closing.contains (token.key?.getD "") then pure none
      else
        match nameOf? token with
        | some name => advance *> pure (some name)
        | none => pure none
    | none => pure none

/-- Names of columns in parentheses, each with a type where one follows. -/
def columnNames (deeper : Deeper) : Parser (List String) := do
  if ← atSymbol "(" then
    parenthesized (listOf do
      let column ← name
      let type? ← attempt (DataType.text deeper)
      pure (Text.joined " " (column.text :: type?.toList)))
  else pure []

/-- An expression with the name it gets behind AS. -/
def namedExpr (deeper : Deeper) : Parser String := do
  let content ← deeper.exprText
  if ← keyword? "AS" then pure (content ++ " AS " ++ (← name).text) else pure content

def settings? (deeper : Deeper) : Parser (Option String) :=
  clause? ["SETTINGS"] (Text.joined ", " <$> listOf do
    let label ← name
    symbol "="
    pure (label.text ++ " = " ++ (← deeper.exprText)))

namespace Table

/-- A table with what stands behind it. -/
structure Factor where
  text : String
  /-- The alias, with AS and the names of its columns. -/
  alias? : Option String := none
  /-- What stands behind the alias. -/
  tail : List String := []
  /-- The table is a join in parentheses. -/
  joins : Bool := false

def Factor.whole (t : Factor) : String := Text.joined " " (t.text :: t.alias?.toList ++ t.tail)

def tableAlias? (deeper : Deeper) : Parser (Option String) := do
  match ← alias? Keyword.closingTable with
  | none => pure none
  | some name => do
    let columns ← columnNames deeper
    pure (some (Text.joined " " (["AS", name.text] ++
      (if columns.isEmpty then [] else [inParentheses columns]))))

/-- A query behind its opening parenthesis, with its alias. -/
def derived (deeper : Deeper) (lateral : String) : Parser Factor := do
  let query ← deeper.queryText
  symbol ")"
  pure { text := lateral ++ "(" ++ query ++ ")", alias? := ← tableAlias? deeper }

def arguments (deeper : Deeper) : Parser String := do
  let items ← listUntil ")" deeper.argument
  symbol ")"
  pure (inParentheses (argumentTexts items))

/-- Arguments of a table with a name behind their opening parenthesis. Settings may end them. -/
def settableArguments (deeper : Deeper) : Parser String := do
  if ← symbol? ")" then pure "()"
  else
    let (reversed, _) ← extend (fun (found, more) => do
      if ! more then pure none
      else
        match ← settings? deeper with
        | some settings => pure (some (settings :: found, false))
        | none =>
          let item ← deeper.argument
          pure (some (item.text :: found, ← symbol? ","))) ([], true)
    symbol ")"
    pure (inParentheses reversed.reverse)

/-! ### Samples -/

/-- How much of a table a sample takes: an expression, or a word for a size. -/
def sampleAmount (deeper : Deeper) : Parser String := do
  let amount ← match ← attempt deeper.exprText with
    | some amount => pure amount
    | none =>
      match ← peek? with
      | some (.word text _ _) => advance *> pure text
      | _ => do
        advance
        reject ("Expecting number or byte length e.g. 100M" ++ (← here))
  pure (Text.joined " " (amount :: (← oneOf? ["ROWS", "PERCENT"]).toList))

/-- One of several buckets that a sample takes, behind its keyword. -/
def sampleBucket (deeper : Deeper) : Parser String := do
  let bucket ← numericValue
  keywords ["OUT", "OF"]
  let total ← numericValue
  let on? ← clause? ["ON"] deeper.exprText
  pure (Text.joined " " (["BUCKET", bucket, "OUT OF", total] ++ on?.toList))

/-- A sample of a table. A bucket is printed behind the seed. -/
def sample (deeper : Deeper) : Parser (List String) := do
  match ← oneOf? ["TABLESAMPLE", "SAMPLE"] with
  | none => pure []
  | some word => do
    let method? ← oneOf? ["BERNOULLI", "ROW", "SYSTEM", "BLOCK"]
    let (amount, bucket) ← if ← symbol? "(" then do
        let parts ← if ← keyword? "BUCKET" then do pure ([], ["(" ++ (← sampleBucket deeper) ++ ")"])
          else do pure (["(" ++ (← sampleAmount deeper) ++ ")"], [])
        symbol ")"
        pure parts
      else do pure ([← sampleAmount deeper], [])
    let seed ← match ← oneOf? ["REPEATABLE", "SEED"] with
      | some word => do pure [word ++ " (" ++ (← parenthesized numericValue) ++ ")"]
      | none => pure []
    let offset? ← clause? ["OFFSET"] deeper.exprText
    pure ([word] ++ method?.toList ++ amount ++ seed ++ bucket ++ offset?.toList)

/-! ### Tables turned around -/

def namedCall (deeper : Deeper) (interval : Parser Expr) : Parser String := do
  match ← peek? with
  | some (.word text _ _) => do
    advance
    let call ← deeper.call interval [⟨text, none⟩]
    match ← alias? ("FOR" :: Keyword.closingColumn) with
    | some label => pure (call.text ++ " AS " ++ label.text)
    | none => pure call.text
  | _ => do
    advance
    expected "a function identifier"

/-- The values of a column that become columns. -/
def pivotSource (deeper : Deeper) : Parser String := do
  if ← keyword? "ANY" then
    let order? ← clause? ["ORDER", "BY"] (Text.joined ", " <$> deeper.sortItems)
    pure (Text.joined " " ("ANY" :: order?.toList))
  else if ["SELECT", "WITH"].contains (← key) then deeper.queryText
  else Text.joined ", " <$> listOf (namedExpr deeper)

def pivot (deeper : Deeper) (interval : Parser Expr) (table : Factor) : Parser Factor := do
  let inner ← parenthesized do
    let calls ← listOf (namedCall deeper interval)
    keyword "FOR"
    let column : Parser String := do pure (← deeper.operand Precedence.comparison).text
    let columns ← if ← atSymbol "(" then columnList column else do pure [← column]
    let columns := match columns with
      | [single] => single
      | several => inParentheses several
    keyword "IN"
    let source ← parenthesized (pivotSource deeper)
    let fallback? ← clause? ["DEFAULT", "ON", "NULL"] do
      pure ("(" ++ (← parenthesized deeper.exprText) ++ ")")
    pure (Text.joined " " ([Text.joined ", " calls, "FOR", columns, "IN", "(" ++ source ++ ")"] ++
      fallback?.toList))
  pure { text := table.whole ++ " PIVOT(" ++ inner ++ ")", alias? := ← tableAlias? deeper }

def unpivot (deeper : Deeper) (table : Factor) : Parser Factor := do
  let nulls? ← phrase? [["INCLUDE", "NULLS"], ["EXCLUDE", "NULLS"]]
  let inner ← parenthesized do
    let content ← deeper.exprText
    keyword "FOR"
    let label ← name
    keyword "IN"
    let columns ← columnList (namedExpr deeper)
    pure (Text.joined " " [content, "FOR", label.text, "IN", inParentheses columns])
  let sign := match nulls? with
    | some nulls => " UNPIVOT " ++ nulls ++ " ("
    | none => " UNPIVOT("
  pure { text := table.whole ++ sign ++ inner ++ ")", alias? := ← tableAlias? deeper }

/-- A table, turned around as often as is said behind it. -/
def turned (deeper : Deeper) (interval : Parser Expr) (table : Factor) : Parser Factor :=
  extend (fun table => do
    if ← keyword? "PIVOT" then some <$> pivot deeper interval table
    else if ← keyword? "UNPIVOT" then some <$> unpivot deeper table
    else pure none) table

/-! ### Tables with names and rows -/

/-- A table with a name, or a call. -/
def named (deeper : Deeper) : Parser Factor := do
  let name ← dottedNameText
  let partitions ← if ← keyword? "PARTITION" then
      let names ← parenthesized (listOf Parser.name)
      pure ("PARTITION " ++ inParentheses (names.map Ident.text))
    else pure ""
  let arguments ← if ← symbol? "(" then settableArguments deeper else pure ""
  let ordinality ← if ← keywords? ["WITH", "ORDINALITY"] then pure " WITH ORDINALITY" else pure ""
  let alias? ← tableAlias? deeper
  let next? ← ahead? 1
  let hints ← if (← atKeywords ["WITH"]) && next? == some (.symbol "(") then do
      advance
      pure ["WITH " ++ inParentheses (← parenthesized deeper.exprTexts)]
    else pure []
  let sample ← sample deeper
  pure { text := name ++ partitions ++ arguments ++ ordinality, alias? := alias?, tail := hints ++ sample }

def row (deeper : Deeper) : Parser String := parenthesized do
  pure ("(" ++ Text.joined ", " (← deeper.exprTexts) ++ ")")

def rows (deeper : Deeper) : Parser String := do
  let rows ← listOf do
    let explicit ← keyword? "ROW"
    pure (explicit, ← row deeper)
  let mark := if rows.any fun r => r.1 then "ROW" else ""
  pure ("VALUES " ++ Text.joined ", " (rows.map fun r => mark ++ r.2))

/-- The elements of arrays as rows, behind the keyword. The word WITH is passed even where no place of
the elements follows. -/
def elements (deeper : Deeper) : Parser Factor := do
  let arrays ← parenthesized deeper.exprTexts
  let ordinality ← if ← keywords? ["WITH", "ORDINALITY"] then pure " WITH ORDINALITY" else pure ""
  let alias? ← tableAlias? deeper
  let offset ← if ← keyword? "WITH" then keyword? "OFFSET" else pure false
  let label? ← if offset then Grammar.alias? Keyword.closingColumn else pure none
  pure {
    text := "UNNEST" ++ inParentheses arrays ++ ordinality
    alias? := alias?
    tail := (if offset then ["WITH OFFSET"] else []) ++
      (label?.map fun label => "AS " ++ label.text).toList }

/-! ### Joins -/

def condition (deeper : Deeper) (natural : Bool) : Parser String := do
  if natural then pure ""
  else if ← keyword? "ON" then pure (" ON " ++ (← deeper.exprText))
  else if ← keyword? "USING" then
    pure (" USING" ++ inParentheses (← columnList dottedNameText))
  else pure ""

/-- The words of a join that takes a condition, none where no join comes next. -/
def joinWords? (natural : Bool) : Parser (Option String) := do
  let word ← key
  if word = "INNER" then
    keywords ["INNER", "JOIN"]
    pure (some "INNER JOIN")
  else if word = "JOIN" then advance *> pure (some "JOIN")
  else if word = "LEFT" ∨ word = "RIGHT" then
    advance
    match ← oneOf? ["OUTER", "SEMI", "ANTI", "JOIN"] with
    | some "JOIN" => pure (some (word ++ " JOIN"))
    | some form => do
      keyword "JOIN"
      pure (some (word ++ " " ++ form ++ " JOIN"))
    | none => reject ("expected OUTER, SEMI, ANTI or JOIN after " ++ word)
  else if word = "ANTI" ∨ word = "SEMI" then
    keywords [word, "JOIN"]
    pure (some (word ++ " JOIN"))
  else if word = "FULL" then
    advance
    let _ ← keyword? "OUTER"
    keyword "JOIN"
    pure (some "FULL JOIN")
  else if word = "OUTER" then expected "LEFT, RIGHT, or FULL"
  else if word = "STRAIGHT_JOIN" then advance *> pure (some "STRAIGHT_JOIN")
  else if natural then expected "a join type after NATURAL"
  else pure none

/-- A join behind a table, none where none comes next. -/
def join? (deeper : Deeper) (factor : Parser Factor) : Parser (Option String) := do
  let scope := if ← keyword? "GLOBAL" then "GLOBAL " else ""
  if ← keyword? "CROSS" then
    if ← keyword? "JOIN" then pure (some (scope ++ "CROSS JOIN " ++ (← factor).whole))
    else if ← keyword? "APPLY" then pure (some (scope ++ "CROSS APPLY " ++ (← factor).whole))
    else expected "JOIN or APPLY after CROSS"
  else if ← keyword? "OUTER" then
    keyword "APPLY"
    pure (some (scope ++ "OUTER APPLY " ++ (← factor).whole))
  else if ← keyword? "ASOF" then
    keyword "JOIN"
    let table ← factor
    keyword "MATCH_CONDITION"
    let matching ← parenthesized deeper.exprText
    let constraint ← condition deeper false
    pure (some (scope ++ "ASOF JOIN " ++ table.whole ++ " MATCH_CONDITION (" ++ matching ++ ")" ++
      constraint))
  else
    let natural ← keyword? "NATURAL"
    match ← joinWords? natural with
    | none => pure none
    | some words => do
      let table ← factor
      let constraint ← condition deeper natural
      let scope := scope ++ (if natural ∧ words ≠ "STRAIGHT_JOIN" then "NATURAL " else "")
      pure (some (scope ++ words ++ " " ++ table.whole ++ constraint))

/-- Joins behind a table. -/
def joins (deeper : Deeper) (factor : Parser Factor) : Parser (List String) := do
  let reversed ← extend (fun found => do
    pure ((← join? deeper factor).map fun join => join :: found)) []
  pure reversed.reverse

/-- A join or a lone table behind its opening parenthesis, given a reader for tables. Parentheses
around a lone table are dropped, and an alias behind them becomes its alias. -/
def enclosed (deeper : Deeper) (factor : Parser Factor) : Parser Factor := do
  let first ← factor
  let others ← joins deeper factor
  symbol ")"
  let alias? ← tableAlias? deeper
  if ! others.isEmpty || first.joins then
    pure { text := "(" ++ Text.joined " " (first.whole :: others) ++ ")", alias? := alias?, joins := true }
  else
    match first.alias?, alias? with
    | some inner, some _ => reject ("duplicate alias " ++ (inner.drop 3).toString)
    | _, none => pure first
    | none, some _ => pure { first with alias? := alias? }

/-- A table, parentheses around it nested so many times at most. -/
def factorWithin (deeper : Deeper) (interval : Parser Expr) : Nat → Parser Factor
  | 0 => expected "identifier"
  | steps + 1 => do
    if ← keyword? "LATERAL" then
      if ← symbol? "(" then derived deeper "LATERAL "
      else
        let name ← dottedNameText
        symbol "("
        let arguments ← arguments deeper
        pure { text := "LATERAL " ++ name ++ arguments, alias? := ← tableAlias? deeper }
    else if ← keyword? "TABLE" then
      let call ← parenthesized deeper.exprText
      pure { text := "TABLE(" ++ call ++ ")", alias? := ← tableAlias? deeper }
    else if ← symbol? "(" then
      match ← attempt (derived deeper "") with
      | some table => turned deeper interval table
      | none => enclosed deeper (factorWithin deeper interval steps)
    else if (← atKeywords ["VALUES"]) && (← ahead? 1) == some (.symbol "(") then
      advance
      let rows ← rows deeper
      pure { text := "(" ++ rows ++ ")", alias? := ← tableAlias? deeper }
    else if ← keyword? "UNNEST" then elements deeper
    else do turned deeper interval (← named deeper)

def factor (deeper : Deeper) (interval : Parser Expr) : Parser Factor := do
  factorWithin deeper interval ((← get).tokens.length + 1)

def joined (deeper : Deeper) (interval : Parser Expr) : Parser String := do
  let table ← factor deeper interval
  pure (Text.joined " " (table.whole :: (← joins deeper (factor deeper interval))))

def list (deeper : Deeper) (interval : Parser Expr) : Parser (List String) :=
  listOf (joined deeper interval)

end Table
end DialectConversion.Sql.Grammar
