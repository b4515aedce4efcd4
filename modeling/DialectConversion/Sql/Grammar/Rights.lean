import DialectConversion.Sql.Grammar.Definition

/-! Statements that give rights, take them back and deny them, read from behind their keywords. -/
namespace DialectConversion.Sql.Grammar.Rights
set_option autoImplicit false
open Sql.Parser Definition

/-! ## What is allowed -/

def plainActions : List (List String) :=
  [["IMPORTED", "PRIVILEGES"], ["ADD", "SEARCH", "OPTIMIZATION"], ["ATTACH", "LISTING"], ["ATTACH", "POLICY"],
    ["BIND", "SERVICE", "ENDPOINT"], ["EVOLVE", "SCHEMA"], ["IMPORT", "SHARE"], ["MANAGE", "VERSIONS"],
    ["MANAGE", "RELEASES"], ["OVERRIDE", "SHARE", "RESTRICTIONS"],
    ["PURCHASE", "DATA", "EXCHANGE", "LISTING"], ["RESOLVE", "ALL"], ["READ", "SESSION"], ["APPLYBUDGET"],
    ["AUDIT"], ["CONNECT"], ["DELETE"], ["DROP"], ["FAILOVER"], ["OPERATE"], ["OWNERSHIP"], ["READ"],
    ["REPLICATE"], ["TEMPORARY"], ["TRIGGER"], ["TRUNCATE"], ["USAGE"]]

def creatable : List (List String) :=
  [["APPLICATION", "PACKAGE"], ["COMPUTE", "POOL"], ["DATA", "EXCHANGE", "LISTING"], ["EXTERNAL", "VOLUME"],
    ["FAILOVER", "GROUP"], ["NETWORK", "POLICY"], ["ORGANIZATION", "LISTING"], ["REPLICATION", "GROUP"],
    ["ACCOUNT"], ["APPLICATION"], ["DATABASE"], ["INTEGRATION"], ["ROLE"], ["SCHEMA"], ["SHARE"], ["USER"],
    ["WAREHOUSE"]]

def executable : List (List String) :=
  [["ALERT"], ["DATA", "METRIC", "FUNCTION"], ["MANAGED", "ALERT"], ["MANAGED", "TASK"], ["TASK"]]

def manageable : List (List String) :=
  [["ACCOUNT", "SUPPORT", "CASES"], ["EVENT", "SHARING"], ["GRANTS"], ["LISTING", "AUTO", "FULFILLMENT"],
    ["ORGANIZATION", "SUPPORT", "CASES"], ["USER", "SUPPORT", "CASES"], ["WAREHOUSES"]]

def applicable : List (List String) :=
  [["AGGREGATION", "POLICY"], ["AUTHENTICATION", "POLICY"], ["JOIN", "POLICY"], ["MASKING", "POLICY"],
    ["PACKAGES", "POLICY"], ["PASSWORD", "POLICY"], ["PROJECTION", "POLICY"], ["ROW", "ACCESS", "POLICY"],
    ["SESSION", "POLICY"], ["TAG"]]

def action : Parser String := do
  match ← phrase? plainActions with
  | some words => pure words
  | none =>
    if ← keywords? ["DATABASE", "ROLE"] then pure ("DATABASE ROLE " ++ (← dottedNameText))
    else
      match ← oneOf? ["APPLY", "CREATE", "EXEC", "EXECUTE", "MANAGE", "MODIFY", "MONITOR", "INSERT",
          "REFERENCES", "SELECT", "UPDATE", "ROLE"] with
      | some "APPLY" => withObject "APPLY" applicable "GRANT APPLY type"
      | some "MANAGE" => withObject "MANAGE" manageable "GRANT management type"
      | some "CREATE" => withOptional "CREATE" creatable
      | some "EXEC" => withOptional "EXEC" executable
      | some "EXECUTE" => withOptional "EXECUTE" executable
      | some "MODIFY" =>
        withOptional "MODIFY" [["LOG", "LEVEL"], ["TRACE", "LEVEL"], ["SESSION", "LOG", "LEVEL"],
          ["SESSION", "TRACE", "LEVEL"]]
      | some "MONITOR" => withOptional "MONITOR" [["EXECUTION"], ["SECURITY"], ["USAGE"]]
      | some "ROLE" => do pure ("ROLE " ++ (← dottedNameText))
      | some word => do pure (Text.joined " " (word :: (← optionalNames)))
      | none => expected "a privilege keyword"
where
  withOptional (word : String) (objects : List (List String)) : Parser String := do
    pure (Text.joined " " (word :: (← phrase? objects).toList))
  withObject (word : String) (objects : List (List String)) (what : String) : Parser String := do
    match ← phrase? objects with
    | some words => pure (word ++ " " ++ words)
    | none => expected what

def actions : Parser String := do
  if ← keyword? "ALL" then pure (Text.joined " " ("ALL" :: (← word? "PRIVILEGES")))
  else Text.joined ", " <$> listOf action

/-! ## Objects -/

/-- A dotted name in which a star may stand for all names. -/
def pattern : Parser String := do
  let parts ← separated (symbol? ".") do
    if ← symbol? "*" then pure "*" else pure (← name).text
  pure (Text.joined "." parts)

/-- Objects that are named with all the words in front of them. -/
def objectWords : List (List String) :=
  [["ALL", "TABLES", "IN", "SCHEMA"], ["ALL", "EXTERNAL", "TABLES", "IN", "SCHEMA"],
    ["ALL", "VIEWS", "IN", "SCHEMA"], ["ALL", "MATERIALIZED", "VIEWS", "IN", "SCHEMA"],
    ["ALL", "FUNCTIONS", "IN", "SCHEMA"], ["FUTURE", "SCHEMAS", "IN", "DATABASE"],
    ["FUTURE", "TABLES", "IN", "SCHEMA"], ["FUTURE", "EXTERNAL", "TABLES", "IN", "SCHEMA"],
    ["FUTURE", "VIEWS", "IN", "SCHEMA"], ["FUTURE", "MATERIALIZED", "VIEWS", "IN", "SCHEMA"],
    ["ALL", "SEQUENCES", "IN", "SCHEMA"], ["FUTURE", "SEQUENCES", "IN", "SCHEMA"], ["RESOURCE", "MONITOR"],
    ["COMPUTE", "POOL"], ["FAILOVER", "GROUP"], ["REPLICATION", "GROUP"], ["EXTERNAL", "VOLUME"]]

/-- The objects that the rights are on. Tables need no word for what they are. Of functions and procedures
only the first one counts, which may have the types of its arguments. -/
def objects (deeper : Deeper) : Parser String := do
  match ← phrase? objectWords with
  | some words => do pure (words ++ " " ++ Text.joined ", " (← listOf dottedNameText))
  | none =>
    let word? ← oneOf? ["SEQUENCE", "DATABASE", "SCHEMA", "TABLE", "VIEW", "WAREHOUSE", "INTEGRATION", "USER",
      "CONNECTION", "PROCEDURE", "FUNCTION"]
    let labels ← listOf pattern
    match word? with
    | some "PROCEDURE" | some "FUNCTION" => do
      let types ← if ← atSymbol "(" then parenthesized (listUntil ")" (DataType.text deeper)) else pure []
      pure (word?.getD "" ++ " " ++ labels.headD "" ++ (if types.isEmpty then "" else inParentheses types))
    | some "TABLE" | none => pure (Text.joined ", " labels)
    | some word => pure (word ++ " " ++ Text.joined ", " labels)

/-! ## Users -/

/-- What kind of user a name stands for, with a blank behind it. -/
def userKind? : Parser (Option String) := do
  pure ((← phrase? [["ROLE"], ["USER"], ["SHARE"], ["GROUP"], ["PUBLIC"], ["DATABASE", "ROLE"],
    ["APPLICATION", "ROLE"], ["APPLICATION"]]).map fun words => words ++ " ")

/-- A user, in a space of names or not. -/
def namedUser : Parser String := do
  let user ← user
  if ← symbol? ":" then pure (user ++ ":" ++ (← name).text) else pure user

/-- Users. The kind of a user holds for the users behind it as well; the public has no name. -/
def users : Parser String := do
  let (reversed, _, _) ← extend (fun (found, kind, more) => do
    if ! more then pure none
    else
      let kind := (← userKind?).getD kind
      let user ← if kind = "PUBLIC " then pure "" else namedUser
      pure (some ((kind ++ user) :: found, kind, ← symbol? ","))) ([], "", true)
  pure (Text.joined ", " reversed.reverse)

/-! ## Statements -/

def subject (deeper : Deeper) : Parser (List String × Option String) := do
  let actions ← actions
  let objects? ← clause? ["ON"] (objects deeper)
  pure ([actions], objects?)

/-- CASCADE or RESTRICT. -/
def behavior : Parser (List String) := do pure (← oneOf? ["CASCADE", "RESTRICT"]).toList

def grant (deeper : Deeper) : Parser String := do
  let (actions, objects?) ← subject deeper
  keyword "TO"
  let users ← users
  let option? ← phrase? [["WITH", "GRANT", "OPTION"]]
  let present? ← phrase? [["COPY", "CURRENT", "GRANTS"], ["REVOKE", "CURRENT", "GRANTS"]]
  let grantor? ← nameBehind? ["AS"]
  let giver? ← nameBehind? ["GRANTED", "BY"]
  pure (Text.joined " " (["GRANT"] ++ actions ++ objects?.toList ++ ["TO", users] ++
    [option?, present?, grantor?, giver?].filterMap id))

def revoke (deeper : Deeper) : Parser String := do
  let (actions, objects?) ← subject deeper
  keyword "FROM"
  let users ← users
  let giver? ← nameBehind? ["GRANTED", "BY"]
  pure (Text.joined " " (["REVOKE"] ++ actions ++ objects?.toList ++ ["FROM", users] ++ giver?.toList ++
    (← behavior)))

def deny (deeper : Deeper) : Parser String := do
  let (actions, objects?) ← subject deeper
  match objects? with
  | none => reject ("DENY statements must specify an object" ++ (← here))
  | some objects => do
    keyword "TO"
    let users ← users
    let behavior ← behavior
    let giver? ← nameBehind? ["AS"]
    pure (Text.joined " " (["DENY"] ++ actions ++ [objects, "TO", users] ++ behavior ++ giver?.toList))

end DialectConversion.Sql.Grammar.Rights
