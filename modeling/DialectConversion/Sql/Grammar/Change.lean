import DialectConversion.Sql.Grammar.Definition

/-! Statements that change rows: INSERT, UPDATE, DELETE and MERGE. -/
namespace DialectConversion.Sql.Grammar.Change
set_option autoImplicit false
open Sql.Parser Definition

/-! ## Parts -/

def assignment (deeper : Deeper) : Parser String := do
  let target ← if ← atSymbol "(" then inParentheses <$> parenthesized (listOf dottedNameText)
    else dottedNameText
  symbol "="
  pure (target ++ " = " ++ (← deeper.exprText))

def assignments (deeper : Deeper) : Parser String := Text.joined ", " <$> listOf (assignment deeper)

def tables (deeper : Deeper) : Parser String :=
  Text.joined ", " <$> Table.list deeper (Expression.interval deeper)

def condition? (deeper : Deeper) : Parser (Option String) := clause? ["WHERE"] deeper.exprText

def returning? (deeper : Deeper) : Parser (Option String) := clause? ["RETURNING"] do
  pure (Text.joined ", " ((← listOf (Select.item deeper)).map SelectItem.text))

/-- What happens to a change that breaks a constraint. -/
def conflictWords? : Parser (Option String) :=
  phrase? [["OR", "REPLACE"], ["OR", "ROLLBACK"], ["OR", "ABORT"], ["OR", "FAIL"], ["OR", "IGNORE"]]

/-! ## INSERT -/

/-- What is done in place of an insertion that breaks a constraint, behind the keyword. The columns stand
without a blank in front of them. -/
def conflictAction (deeper : Deeper) : Parser String := do
  if ← keyword? "CONFLICT" then
    let target ← match ← clause? ["ON", "CONSTRAINT"] dottedNameText with
      | some target => pure (" " ++ target)
      | none => do pure (String.join (← optionalNames))
    keyword "DO"
    let action ← if ← keyword? "NOTHING" then pure ["NOTHING"]
      else do
        keywords ["UPDATE", "SET"]
        let changes ← assignments deeper
        pure (["UPDATE SET", changes] ++ (← condition? deeper).toList)
    pure (Text.joined " " (["ON CONFLICT" ++ target, "DO"] ++ action))
  else
    keywords ["DUPLICATE", "KEY", "UPDATE"]
    pure ("ON DUPLICATE KEY UPDATE " ++ (← assignments deeper))

/-- A name for the inserted row, with names for its columns. -/
def rowName? : Parser (Option String) := clause? ["AS"] do
  let label ← dottedNameText
  pure (Text.joined " " (label :: (← optionalNames)))

/-- The rows of a query that go into files, behind the keyword. -/
def directory (deeper : Deeper) (beginning : List String) : Parser String := do
  let path ← literalString
  let format ← if ← keyword? "STORED" then do pure [← fileFormat deeper] else pure []
  pure (Text.joined " " (beginning ++ ["DIRECTORY '" ++ path ++ "'"] ++ format ++ [← deeper.queryText]))

/-- What is inserted, with the columns in front of it. -/
def source (deeper : Deeper) : Parser (List String) := do
  if ← keywords? ["DEFAULT", "VALUES"] then pure ["DEFAULT VALUES"]
  else
    let next? ← ahead? 1
    let query := (← atSymbol "(") && (next?.bind Token.key?) == some "SELECT"
    let columns ← if query then pure [] else optionalNames
    let partition? ← if query then pure none
      else clause? ["PARTITION"] (inParentheses <$> parenthesized deeper.exprTexts)
    let rows ← if (← atKeywords ["FORMAT"]) || (← atKeywords ["SETTINGS"]) then pure []
      else do pure [← deeper.queryText]
    pure (columns ++ partition?.toList ++ rows)

/-- INSERT or REPLACE behind its keyword. With a rule for conflicts the words in front of the table are
always the same. -/
def insert (deeper : Deeper) (word : String) : Parser String := do
  let conflict? ← conflictWords?
  let priority? ← oneOf? ["LOW_PRIORITY", "DELAYED", "HIGH_PRIORITY"]
  let ignore ← word? "IGNORE"
  let overwrite ← word? "OVERWRITE"
  let into ← word? "INTO"
  let near ← word? "LOCAL"
  if ← keyword? "DIRECTORY" then directory deeper (["INSERT"] ++ overwrite ++ near)
  else
    let tableWord ← word? "TABLE"
    let table ← dottedNameText
    let source ← source deeper
    let rowName? ← rowName?
    let action? ← if ← keyword? "ON" then some <$> conflictAction deeper else pure none
    let returned? ← returning? deeper
    let beginning := match conflict? with
      | some conflict => ["INSERT", conflict, "INTO"]
      | none => [word] ++ priority?.toList ++ ignore ++ overwrite ++ into ++ tableWord
    pure (Text.joined " " (beginning ++ [table] ++ source ++ [rowName?, action?, returned?].filterMap id))

/-! ## UPDATE and DELETE -/

def update (deeper : Deeper) : Parser String := do
  let conflict? ← conflictWords?
  let table ← Table.joined deeper (Expression.interval deeper)
  let before? ← clause? ["FROM"] (tables deeper)
  keyword "SET"
  let changes ← assignments deeper
  let after? ← if before?.isNone then clause? ["FROM"] (tables deeper) else pure none
  let condition? ← condition? deeper
  let returned? ← returning? deeper
  let limit? ← clause? ["LIMIT"] deeper.exprText
  pure (Text.joined " " (["UPDATE"] ++ conflict?.toList ++ [table] ++ before?.toList ++ ["SET", changes] ++
    [after?, condition?, returned?, limit?].filterMap id))

/-- How many rows are deleted. Deleting all of them is the default and is dropped. -/
def deletionLimit (deeper : Deeper) : Parser (List String) := do
  if ← keywords? ["LIMIT", "ALL"] then pure []
  else pure (← clause? ["LIMIT"] deeper.exprText).toList

def delete (deeper : Deeper) : Parser String := do
  let word ← word? "FROM"
  let target ← tables deeper
  let others? ← clause? ["USING"] (tables deeper)
  let condition? ← condition? deeper
  let returned? ← returning? deeper
  let order? ← clause? ["ORDER", "BY"] (Text.joined ", " <$> deeper.sortItems)
  let limit ← deletionLimit deeper
  pure (Text.joined " " (["DELETE"] ++ word ++ [target] ++
    [others?, condition?, returned?, order?].filterMap id ++ limit))

/-! ## MERGE -/

/-- The rows that a branch of a MERGE is for. -/
inductive MergeRows where
  | matched
  | notMatched
  | notMatchedByTarget
  | notMatchedBySource
  deriving DecidableEq

namespace MergeRows

def text : MergeRows → String
  | matched => "MATCHED"
  | notMatched => "NOT MATCHED"
  | notMatchedByTarget => "NOT MATCHED BY TARGET"
  | notMatchedBySource => "NOT MATCHED BY SOURCE"

/-- Whether the rows are in the target, so that they can be changed but not inserted. -/
def inTarget : MergeRows → Bool
  | matched | notMatchedBySource => true
  | notMatched | notMatchedByTarget => false

def read : Parser MergeRows := do
  let negated ← keyword? "NOT"
  keyword "MATCHED"
  if negated then
    match ← phrase? [["BY", "SOURCE"], ["BY", "TARGET"]] with
    | some "BY SOURCE" => pure notMatchedBySource
    | some _ => pure notMatchedByTarget
    | none => pure notMatched
  else pure matched

end MergeRows

def mergeInsertion (deeper : Deeper) : Parser (List String) := do
  let columns ← optionalNames
  if ← keyword? "ROW" then pure (columns ++ ["ROW"])
  else
    keyword "VALUES"
    pure (columns ++ [← Table.rows deeper])

def mergeAction (deeper : Deeper) (rows : MergeRows) : Parser String := do
  match ← oneOf? ["UPDATE", "INSERT", "DELETE"] with
  | none => reject "expected UPDATE, DELETE or INSERT in merge clause"
  | some word =>
    if rows.inTarget = (word == "INSERT") then
      reject (word ++ " is not allowed in a " ++ rows.text ++ " merge clause")
    else
      match word with
      | "UPDATE" => do
        keyword "SET"
        pure ("UPDATE SET " ++ (← assignments deeper))
      | "INSERT" => do pure (Text.joined " " ("INSERT" :: (← mergeInsertion deeper)))
      | _ => pure "DELETE"

def mergeBranches (deeper : Deeper) : Parser (List String) := do
  let reversed ← extend (fun found => do
    if ← keyword? "WHEN" then
      let rows ← MergeRows.read
      let condition? ← clause? ["AND"] deeper.exprText
      keyword "THEN"
      let action ← mergeAction deeper rows
      pure (some (Text.joined " " (["WHEN", rows.text] ++ condition?.toList ++ ["THEN", action]) :: found))
    else pure none) []
  pure reversed.reverse

def output? (deeper : Deeper) : Parser (Option String) := do
  match ← oneOf? ["OUTPUT", "RETURNING"] with
  | none => pure none
  | some word => do
    let items ← separated Select.anotherItem (Select.item deeper)
    let into? ← if word = "OUTPUT" then Select.into? else pure none
    pure (some (Text.joined " " ([word, Text.joined ", " (items.map SelectItem.text)] ++ into?.toList)))

/-- MERGE behind its keyword. A blank stands between the condition and the branches, even where there are
none. -/
def merge (deeper : Deeper) : Parser String := do
  let into ← word? "INTO"
  let table ← Table.factor deeper (Expression.interval deeper)
  keyword "USING"
  let source ← Table.factor deeper (Expression.interval deeper)
  keyword "ON"
  let condition ← deeper.exprText
  let branches ← mergeBranches deeper
  let output? ← output? deeper
  pure (Text.joined " " (["MERGE"] ++ into ++ [table.whole, "USING", source.whole, "ON", condition,
    Text.joined " " branches] ++ output?.toList))

/-! ## Any change -/

/-- A statement that changes rows, none where none comes next. -/
def read? (deeper : Deeper) : Parser (Option String) := do
  match ← oneOf? ["INSERT", "UPDATE", "DELETE", "MERGE"] with
  | some "INSERT" => some <$> insert deeper "INSERT"
  | some "UPDATE" => some <$> update deeper
  | some "DELETE" => some <$> delete deeper
  | some _ => some <$> merge deeper
  | none => pure none

end DialectConversion.Sql.Grammar.Change
