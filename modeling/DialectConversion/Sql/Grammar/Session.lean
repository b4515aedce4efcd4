import DialectConversion.Sql.Grammar.Query

/-! Statements about a session: its transactions and its settings, read from behind their keywords. -/
namespace DialectConversion.Sql.Grammar.Session
set_option autoImplicit false
open Sql.Parser

/-! ## Transactions -/

/-- A mode of a transaction, none where none comes next. -/
def mode? : Parser (Option String) := do
  match ← phrase? [["ISOLATION", "LEVEL"], ["READ", "ONLY"], ["READ", "WRITE"]] with
  | some "ISOLATION LEVEL" => do
    match ← phrase? [["READ", "UNCOMMITTED"], ["READ", "COMMITTED"], ["REPEATABLE", "READ"],
        ["SERIALIZABLE"], ["SNAPSHOT"]] with
    | some level => pure (some ("ISOLATION LEVEL " ++ level))
    | none => expected "isolation level"
  | found? => pure found?

/-- The modes of a transaction, with commas between them or without. Behind a comma a mode has to
follow. -/
def modes : Parser (List String) := do
  let (reversed, _) ← extend (fun (found, comma) => do
    match ← mode? with
    | some mode => pure (some (mode :: found, ← symbol? ","))
    | none => if comma then expected "transaction mode" else pure none) ([], false)
  pure (if reversed.isEmpty then [] else [Text.joined ", " reversed.reverse])

def begin : Parser String := do
  let kind? ← oneOf? ["DEFERRED", "IMMEDIATE", "EXCLUSIVE", "TRY", "CATCH"]
  let word? ← oneOf? ["TRANSACTION", "WORK"]
  pure (Text.joined " " (["BEGIN"] ++ kind?.toList ++ word?.toList ++ (← modes)))

def start : Parser String := do
  keyword "TRANSACTION"
  pure (Text.joined " " ("START TRANSACTION" :: (← modes)))

def chain : Parser (List String) := do
  let _ ← oneOf? ["TRANSACTION", "WORK"]
  if ← keyword? "AND" then
    let negated ← keyword? "NO"
    keyword "CHAIN"
    pure (if negated then [] else ["AND CHAIN"])
  else pure []

def commit (word : String) : Parser String := do pure (Text.joined " " (word :: (← chain)))

def rollback : Parser String := do
  let chain ← chain
  let target ← if ← keyword? "TO" then
      let _ ← keyword? "SAVEPOINT"
      pure ["TO SAVEPOINT " ++ (← name).text]
    else pure []
  pure (Text.joined " " (["ROLLBACK"] ++ chain ++ target))

def savepoint : Parser String := do pure ("SAVEPOINT " ++ (← name).text)

def release : Parser String := do
  let _ ← keyword? "SAVEPOINT"
  pure ("RELEASE SAVEPOINT " ++ (← name).text)

/-! ## Settings -/

def scope : Parser (List String) := do pure (← oneOf? ["SESSION", "LOCAL", "GLOBAL"]).toList

def assignmentSign : Parser Bool := symbol? "=" <||> keyword? "TO"

/-- The value of a setting. What a failing expression passed stays passed. -/
def value (deeper : Deeper) : Parser String := do
  if ← Expression.atQuery then pure (inParentheses [← deeper.queryText])
  else
    match ← pass deeper.exprText with
    | some text => pure text
    | none => expected "variable value"

/-- A setting with its value, and a scope of its own. -/
def assignment (deeper : Deeper) : Parser (List String × String) := do
  let scope ← scope
  if ← atSymbol "(" then expected "Unparenthesized assignment"
  else
    let label ← dottedNameText
    unless ← assignmentSign do expected "assignment operator"
    pure (scope, label ++ " = " ++ (← deeper.exprText))

/-- Settings behind their scope, given where the scope starts. A list of settings has their scopes; if
there is no such list the word for the scope counts as a name. -/
def assignments (deeper : Deeper) (scope : List String) (start : Cursor) : Parser String := do
  unless scope.isEmpty do set start
  match ← attempt (listOf (assignment deeper)) with
  | some settings =>
    pure ("SET " ++ Text.joined ", " (settings.map fun (scope, text) => Text.joined " " (scope ++ [text])))
  | none =>
    if ← symbol? "(" then
      let labels ← listOf Parser.name
      symbol ")"
      unless ← assignmentSign do expected "equals sign or TO"
      let values ← parenthesized (listOf (value deeper))
      pure ("SET " ++ inParentheses (labels.map Ident.text) ++ " = " ++ inParentheses values)
    else
      let label ← dottedNameText
      unless ← assignmentSign do expected "equals sign or TO"
      let values ← listOf (value deeper)
      pure (Text.joined " " (["SET"] ++ scope ++ [label, "=", Text.joined ", " values]))

/-- The role that a session takes on, where the words fit. -/
def role? (scope : List String) : Parser (Option String) := attempt do
  keyword "ROLE"
  pure (Text.joined " " (["SET"] ++ scope ++ ["ROLE", (← name).text]))

def timeZone (deeper : Deeper) (scope : List String) : Parser String := do
  if ← assignmentSign then
    pure (Text.joined " " (["SET"] ++ scope ++ ["TIMEZONE =", Text.joined ", " (← listOf (value deeper))]))
  else
    let scope := if scope = ["LOCAL"] then scope else []
    pure (Text.joined " " (["SET"] ++ scope ++ ["TIME ZONE", ← deeper.exprText]))

def names : Parser String := do
  if ← keyword? "DEFAULT" then pure "SET NAMES DEFAULT"
  else
    let set ← name
    let collation? ← clause? ["COLLATE"] literalString
    pure (Text.joined " " (["SET NAMES", set.text] ++ collation?.toList))

def setting (deeper : Deeper) : Parser String := do
  let start ← get
  let scope ← scope
  match ← role? scope with
  | some text => pure text
  | none =>
    match ← phrase? [["TIME", "ZONE"], ["TIMEZONE"], ["NAMES"], ["CHARACTERISTICS"], ["TRANSACTION"]] with
    | some "NAMES" => names
    | some "CHARACTERISTICS" => do
      keywords ["AS", "TRANSACTION"]
      pure (Text.joined " " ("SET SESSION CHARACTERISTICS AS TRANSACTION" :: (← modes)))
    | some "TRANSACTION" => do
      match ← clause? ["SNAPSHOT"] Parser.value with
      | some snapshot => pure ("SET TRANSACTION " ++ snapshot)
      | none => do pure (Text.joined " " ("SET TRANSACTION" :: (← modes)))
    | some _ => timeZone deeper scope
    | none => assignments deeper scope start

end DialectConversion.Sql.Grammar.Session
