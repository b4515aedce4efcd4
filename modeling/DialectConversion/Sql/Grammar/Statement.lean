import DialectConversion.Sql.Grammar.Alteration
import DialectConversion.Sql.Grammar.Change
import DialectConversion.Sql.Grammar.Command
import DialectConversion.Sql.Grammar.Rights
import DialectConversion.Sql.Grammar.Session

/-! Statements. Queries keep their structure; all other statements are read as their canonical text. -/
namespace DialectConversion.Sql.Grammar.Statement
set_option autoImplicit false
open Sql.Parser Definition

/-! ## Looking at statements and objects -/

def planFormat : Parser String := do
  let sign := if ← symbol? "=" then "FORMAT=" else "FORMAT "
  match ← oneOf? ["TEXT", "GRAPHVIZ", "JSON", "TRADITIONAL", "TREE"] with
  | some format => pure (sign ++ format)
  | none => expected "fileformat"

/-- An option of a plan: a name, with a value or without. -/
def planOption (deeper : Deeper) : Parser String := do
  let label ← name
  if (← atSymbol ",") || (← atSymbol ")") then pure label.text
  else pure (label.text ++ " " ++ (← deeper.exprText))

/-- What kind of plan is asked for. -/
def planDetails (deeper : Deeper) (word : String) : Parser (List String) := do
  if word == "EXPLAIN" && (← atSymbol "(") then
    pure [inParentheses (← parenthesized (listOf (planOption deeper)))]
  else
    match ← phrase? [["QUERY", "PLAN"], ["ESTIMATE"]] with
    | some words => pure [words]
    | none => do
      let analyze ← word? "ANALYZE"
      let verbose ← word? "VERBOSE"
      let format ← if ← keyword? "FORMAT" then pure [← planFormat] else pure []
      pure (analyze ++ verbose ++ format)

/-- EXPLAIN or a word for it, behind which a statement follows or the name of a table. -/
def explain (deeper : Deeper) (word : String) : Parser String := do
  let details ← planDetails deeper word
  let again := ["EXPLAIN", "DESCRIBE", "DESC"].contains (← key)
  match ← attempt deeper.statement with
  | some statement =>
    if again then reject "Explain must be root of the plan"
    else pure (Text.joined " " ([word] ++ details ++ [statement.text]))
  | none => do
    let format? ← oneOf? ["EXTENDED", "FORMATTED"]
    pure (Text.joined " " ([word] ++ format?.toList ++ [← dottedNameText]))

def shownFilter? (deeper : Deeper) : Parser (Option String) := do
  match ← oneOf? ["LIKE", "ILIKE"] with
  | some word => do pure (some (word ++ " '" ++ (← literalString) ++ "'"))
  | none =>
    match ← clause? ["WHERE"] deeper.exprText with
    | some condition => pure (some condition)
    | none => attempt do pure ("'" ++ (← literalString) ++ "'")

/-- The object that the shown ones are in. -/
def shownIn? : Parser (Option String) := do
  match ← oneOf? ["FROM", "IN"] with
  | none => pure none
  | some word =>
    match ← oneOf? ["ACCOUNT", "DATABASE", "SCHEMA", "TABLE", "VIEW"] with
    | some kind =>
      let alone := ["DATABASE", "SCHEMA"].contains kind &&
        ((← atKeywords ["STARTS", "WITH"]) || (← atKeywords ["LIMIT"]))
      let label? ← if alone then pure none else attempt dottedNameText
      pure (some (Text.joined " " ([word, kind] ++ label?.toList)))
    | none => do
      let label ← dottedNameText
      match ← oneOf? ["FROM", "IN"] with
      | some _ => do pure (some (word ++ " " ++ (← name).text ++ "." ++ label))
      | none => pure (some (word ++ " " ++ label))

/-- Where the shown objects are, and which of them are shown. A condition is printed last. -/
def shownOptions (deeper : Deeper) : Parser (List String) := do
  let in? ← shownIn?
  let filter? ← shownFilter? deeper
  let start? ← clause? ["STARTS", "WITH"] Parser.value
  let limit? ← clause? ["LIMIT"] deeper.exprText
  let first? ← clause? ["FROM"] Parser.value
  pure ([in?, start?, limit?, first?, filter?].filterMap id)

/-- All the words that come next up to an equals sign, whatever stands between them. -/
def remainingWords : Parser (List String) := do
  let reversed ← extend (fun found => do
    match ← peek? with
    | some (.symbol "=") | none => pure none
    | some (.word text quote? _) => advance *> pure (some ((⟨text, quote?⟩ : Ident).text :: found))
    | some _ => advance *> pure (some found)) []
  pure reversed.reverse

def display (deeper : Deeper) : Parser String := do
  let terse ← word? "TERSE"
  let extended ← word? "EXTENDED"
  let full ← word? "FULL"
  let session ← word? "SESSION"
  let global ← word? "GLOBAL"
  let outside ← word? "EXTERNAL"
  let shown (words : List String) : Parser String := do pure (Text.joined " " ("SHOW" :: words))
  match ← phrase? [["COLUMNS"], ["FIELDS"], ["TABLES"], ["MATERIALIZED", "VIEWS"], ["VIEWS"],
      ["FUNCTIONS"]] with
  | some "COLUMNS" | some "FIELDS" => do shown (extended ++ full ++ ["COLUMNS"] ++ (← shownOptions deeper))
  | some "TABLES" => do
    shown (terse ++ extended ++ full ++ outside ++ ["TABLES"] ++ (← shownOptions deeper))
  | some "FUNCTIONS" => do shown (["FUNCTIONS"] ++ (← shownFilter? deeper).toList)
  | some words => do shown (terse ++ [words] ++ (← shownOptions deeper))
  | none =>
    if ! extended.isEmpty || ! full.isEmpty then
      reject "EXTENDED/FULL are not supported with this type of SHOW query"
    else
      match ← phrase? [["CREATE"], ["COLLATION"], ["VARIABLES"], ["STATUS"], ["DATABASES"], ["SCHEMAS"],
          ["CHARACTER", "SET"], ["CHARSET"]] with
      | some "CREATE" => do
        let kind ← oneOf ["TABLE", "TRIGGER", "FUNCTION", "PROCEDURE", "EVENT", "VIEW"]
        shown ["CREATE", kind, ← dottedNameText]
      | some "DATABASES" => do shown (terse ++ ["DATABASES"] ++ (← shownOptions deeper))
      | some "SCHEMAS" => do shown (terse ++ ["SCHEMAS"] ++ (← shownOptions deeper))
      | some "VARIABLES" => do shown (global ++ session ++ ["VARIABLES"] ++ (← shownFilter? deeper).toList)
      | some "STATUS" => do shown (global ++ session ++ ["STATUS"] ++ (← shownFilter? deeper).toList)
      | some words => do shown ([words] ++ (← shownFilter? deeper).toList)
      | none => do shown (← remainingWords)

/-! ## Any statement -/

/-- What stands behind the first word of a statement, none where the word starts no statement. -/
def worded? (deeper : Deeper) (word : String) : Option (Parser String) :=
  match word with
  | "INSERT" | "REPLACE" => some (Change.insert deeper word)
  | "UPDATE" => some (Change.update deeper)
  | "DELETE" => some (Change.delete deeper)
  | "MERGE" => some (Change.merge deeper)
  | "CREATE" => some (create deeper)
  | "DROP" => some (Alteration.drop deeper)
  | "TRUNCATE" => some (Alteration.truncate deeper)
  | "ALTER" => some (Alteration.alter deeper)
  | "EXPLAIN" | "DESCRIBE" | "DESC" => some (explain deeper word)
  | "COMMIT" | "END" => some (Session.commit word)
  | "ROLLBACK" => some Session.rollback
  | "BEGIN" => some Session.begin
  | "START" => some Session.start
  | "SAVEPOINT" => some Session.savepoint
  | "RELEASE" => some Session.release
  | "SET" => some (Session.setting deeper)
  | "GRANT" => some (Rights.grant deeper)
  | "REVOKE" => some (Rights.revoke deeper)
  | "DENY" => some (Rights.deny deeper)
  | "SHOW" => some (display deeper)
  | _ => Command.worded? deeper word

/-- A statement. -/
def read (deeper : Deeper) : Parser Statement := do
  let word ← key
  if (← atSymbol "(") || ["SELECT", "WITH", "VALUES", "FROM"].contains word then .query <$> deeper.query
  else
    match worded? deeper word with
    | some statement => advance *> .other <$> statement
    | none => expected "an SQL statement"

end DialectConversion.Sql.Grammar.Statement
