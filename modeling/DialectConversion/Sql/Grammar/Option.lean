import DialectConversion.Sql.Grammar.Cursor

/-! Options that are given as keys and values, as they stand behind the definitions of tables,
columns and fields. A few options have a form of their own. -/
namespace DialectConversion.Sql.Grammar
set_option autoImplicit false
open Sql.Parser

def clusteredOption : Parser String := do
  match ← phrase? [["CLUSTERED", "COLUMNSTORE", "INDEX", "ORDER"], ["CLUSTERED", "COLUMNSTORE", "INDEX"],
      ["CLUSTERED", "INDEX"]] with
  | some "CLUSTERED COLUMNSTORE INDEX" => pure "CLUSTERED COLUMNSTORE INDEX"
  | some "CLUSTERED INDEX" => do
    let columns ← parenthesized (listOf do
      let column ← name
      pure (Text.joined " " (column.text :: (← oneOf? ["ASC", "DESC"]).toList)))
    pure ("CLUSTERED INDEX " ++ inParentheses columns)
  | some words => do pure (words ++ " " ++ (← nameList))
  | none => reject "invalid CLUSTERED sequence"

def partitionOption (deeper : Deeper) : Parser String := do
  keyword "PARTITION"
  let inner ← parenthesized do
    let column ← name
    keyword "RANGE"
    let side? ← oneOf? ["LEFT", "RIGHT"]
    keywords ["FOR", "VALUES"]
    let values ← parenthesized deeper.exprTexts
    pure (Text.joined " " ([column.text, "RANGE"] ++ side?.toList ++ ["FOR VALUES " ++ inParentheses values]))
  pure ("PARTITION (" ++ inner ++ ")")

def keyedOption (deeper : Deeper) : Parser String := do
  match ← key with
  | "HEAP" => do pure (← name).text
  | "PARTITION" => partitionOption deeper
  | "CLUSTERED" => clusteredOption
  | _ =>
    let label ← name
    symbol "="
    pure (label.text ++ " = " ++ (← deeper.exprText))

/-- Options in parentheses behind a keyword, as they are listed; none where the keyword does not come
next. There may be no option between the parentheses. -/
def optionItems? (deeper : Deeper) (word : String) : Parser (Option (List String)) := do
  if ← keyword? word then
    some <$> parenthesized (listUntil ")" (keyedOption deeper))
  else pure none

/-- Options in parentheses behind a keyword, as text. -/
def optionsBehind? (deeper : Deeper) (word : String) : Parser (Option String) := do
  pure ((← optionItems? deeper word).map fun items => word ++ inParentheses items)

end DialectConversion.Sql.Grammar
