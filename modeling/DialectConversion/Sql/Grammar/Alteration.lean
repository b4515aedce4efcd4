import DialectConversion.Sql.Grammar.Definition

/-! Statements that change, empty and remove tables and other objects. A reader with the name of a statement or
an object begins behind the keywords in front of it. -/
namespace DialectConversion.Sql.Grammar.Alteration
set_option autoImplicit false
open Sql.Parser Definition

/-- CASCADE or RESTRICT. -/
def behavior : Parser (List String) := do pure (← oneOf? ["CASCADE", "RESTRICT"]).toList

/-- IF EXISTS, where it comes next. -/
def ifPresent : Parser (List String) := words? ["IF", "EXISTS"]

/-! ## Changing tables -/

/-- A change to a column behind its name. -/
def columnChange (deeper : Deeper) : Parser String := do
  match ← phrase? [["SET", "NOT", "NULL"], ["DROP", "NOT", "NULL"], ["SET", "DEFAULT"], ["DROP", "DEFAULT"],
      ["SET", "DATA", "TYPE"], ["TYPE"], ["ADD", "GENERATED"]] with
  | none => expected "SET/DROP NOT NULL, SET DEFAULT, or SET DATA TYPE after ALTER COLUMN"
  | some "SET DEFAULT" => do pure ("SET DEFAULT " ++ (← deeper.exprText))
  | some "SET DATA TYPE" => do pure ("SET DATA TYPE " ++ (← DataType.text deeper))
  | some "TYPE" => do pure ("TYPE " ++ (← DataType.text deeper))
  | some "ADD GENERATED" => do
    let time? ← phrase? [["ALWAYS"], ["BY", "DEFAULT"]]
    keywords ["AS", "IDENTITY"]
    let options ← if ← atSymbol "(" then do
        let options ← parenthesized Column.sequenceOptions
        pure [if options.isEmpty then "()" else "( " ++ Text.joined " " options ++ " )"]
      else pure []
    pure (Text.joined " " (["ADD GENERATED"] ++ time?.toList ++ ["AS IDENTITY"] ++ options))
  | some words => pure words

def columnPlace : Parser (List String) := do
  if ← keyword? "FIRST" then pure ["FIRST"]
  else pure (← nameBehind? ["AFTER"]).toList

/-- A part of a table: a partition, or what makes it up. -/
def partition? (deeper : Deeper) : Parser (Option String) :=
  clause? ["PARTITION"] do pure (inParentheses (← parenthesized deeper.exprTexts))

def addition (deeper : Deeper) : Parser String := do
  match ← Column.constraint? deeper with
  | some constraint => pure (Text.joined " " (["ADD", constraint] ++ (← words? ["NOT", "VALID"])))
  | none => do
    let early ← ifMissing
    let reversed ← extend (fun found => do
      pure ((← partition? deeper).map fun partition => partition :: found)) []
    if ! reversed.isEmpty then pure (Text.joined " " (["ADD"] ++ early ++ reversed.reverse))
    else
      let word ← word? "COLUMN"
      let late ← ifMissing
      let column ← Column.read deeper
      pure (Text.joined " " (["ADD"] ++ word ++ (if late.isEmpty then early else late) ++ [column] ++
        (← columnPlace)))

def newName : Parser String := do
  match ← oneOf? ["TO", "AS"] with
  | some word => do pure ("RENAME " ++ word ++ " " ++ (← dottedNameText))
  | none => do
    let _ ← keyword? "COLUMN"
    let before ← name
    keyword "TO"
    pure ("RENAME COLUMN " ++ before.text ++ " TO " ++ (← name).text)

def removal (deeper : Deeper) : Parser String := do
  let label : Parser String := do pure (← name).text
  let guard ← if ← atKeywords ["IF", "EXISTS", "PARTITION"] then ifPresent else pure []
  match ← partition? deeper with
  | some partition => pure (Text.joined " " (["DROP"] ++ guard ++ [partition]))
  | none =>
    match ← phrase? [["CONSTRAINT"], ["PRIMARY", "KEY"], ["FOREIGN", "KEY"], ["INDEX"], ["PROJECTION"],
        ["CLUSTERING", "KEY"]] with
    | some "CONSTRAINT" => do
      let guard ← ifPresent
      let label ← label
      pure (Text.joined " " (["DROP CONSTRAINT"] ++ guard ++ [label] ++ (← behavior)))
    | some "PRIMARY KEY" => do pure (Text.joined " " (["DROP PRIMARY KEY"] ++ (← behavior)))
    | some "FOREIGN KEY" => do
      let label ← label
      pure (Text.joined " " (["DROP FOREIGN KEY", label] ++ (← behavior)))
    | some "INDEX" => do pure ("DROP INDEX " ++ (← label))
    | some "PROJECTION" => do
      let guard ← ifPresent
      pure (Text.joined " " (["DROP PROJECTION"] ++ guard ++ [← label]))
    | some words => pure ("DROP " ++ words)
    | none => do
      let word ← word? "COLUMN"
      let guard ← ifPresent
      let label ← label
      pure (Text.joined " " (["DROP"] ++ word ++ guard ++ [label] ++ (← behavior)))

/-- A column with a new type, behind the words. -/
def redefinition (deeper : Deeper) (words : String) (labels : List String) : Parser String := do
  let type ← DataType.text deeper
  let options ← Column.options deeper
  pure (Text.joined " " ([words] ++ labels ++ [type] ++ options ++ (← columnPlace)))

/-- A rule or a trigger that is switched on or off, behind the keyword. -/
def switching (beginning : String) (forms : List (List String)) (what : String) : Parser String := do
  match ← phrase? (["ROW", "LEVEL", "SECURITY"] :: forms) with
  | some "ROW LEVEL SECURITY" => pure (beginning ++ " ROW LEVEL SECURITY")
  | some words => do pure (beginning ++ " " ++ words ++ " " ++ (← name).text)
  | none => expected (what ++ " after " ++ beginning)

/-- A setting with an equals sign or without, behind its keyword. -/
def switch (word : String) (choices : List String) (what : String) : Parser String := do
  let sign := if ← symbol? "=" then " = " else " "
  match ← oneOf? choices with
  | some choice => pure (word ++ sign ++ choice)
  | none => expected (what ++ " after " ++ word ++ " [=]")

/-- What tells rows apart for copies of a table, behind the keywords. -/
def replicaIdentity : Parser String := do
  match ← phrase? [["NONE"], ["FULL"], ["DEFAULT"], ["USING", "INDEX"]] with
  | some "USING INDEX" => do pure ("REPLICA IDENTITY USING INDEX " ++ (← name).text)
  | some words => pure ("REPLICA IDENTITY " ++ words)
  | none => expected "NONE, FULL, DEFAULT, or USING INDEX index_name after REPLICA IDENTITY"

def optionsSet (deeper : Deeper) : Parser String := do
  let labelled ← if ← atKeywords ["SET", "TBLPROPERTIES"] then advance *> filledOptions deeper "TBLPROPERTIES"
    else pure []
  let options ← if labelled.isEmpty then filledOptions deeper "SET" else pure (labelled.map fun t => "SET " ++ t)
  match options with
  | [text] => pure text
  | _ =>
    expected ("ADD, RENAME, PARTITION, SWAP, DROP, REPLICA IDENTITY, SET, or SET TBLPROPERTIES " ++
      "after ALTER TABLE")

def change (deeper : Deeper) : Parser String := do
  match ← phrase? [["ADD"], ["RENAME"], ["DISABLE"], ["ENABLE"], ["DROP"], ["CHANGE"], ["MODIFY"], ["ALTER"],
      ["SWAP"], ["OWNER", "TO"], ["CLUSTER", "BY"], ["SUSPEND", "RECLUSTER"], ["RESUME", "RECLUSTER"],
      ["LOCK"], ["ALGORITHM"], ["AUTO_INCREMENT"], ["REPLICA", "IDENTITY"], ["VALIDATE", "CONSTRAINT"]] with
  | some "ADD" => addition deeper
  | some "RENAME" => newName
  | some "DROP" => removal deeper
  | some "DISABLE" =>
    switching "DISABLE" [["RULE"], ["TRIGGER"]] "ROW LEVEL SECURITY, RULE, or TRIGGER"
  | some "ENABLE" =>
    switching "ENABLE" [["ALWAYS", "RULE"], ["ALWAYS", "TRIGGER"], ["REPLICA", "RULE"],
      ["REPLICA", "TRIGGER"], ["RULE"], ["TRIGGER"]] "ALWAYS, REPLICA, ROW LEVEL SECURITY, RULE, or TRIGGER"
  | some "CHANGE" => do
    let _ ← keyword? "COLUMN"
    let before ← name
    let after ← name
    redefinition deeper "CHANGE COLUMN" [before.text, after.text]
  | some "MODIFY" => do
    let _ ← keyword? "COLUMN"
    redefinition deeper "MODIFY COLUMN" [(← name).text]
  | some "ALTER" => do
    let _ ← keyword? "COLUMN"
    let column ← name
    pure ("ALTER COLUMN " ++ column.text ++ " " ++ (← columnChange deeper))
  | some "SWAP" => do
    keyword "WITH"
    pure ("SWAP WITH " ++ (← dottedNameText))
  | some "OWNER TO" => do
    match ← oneOf? ["CURRENT_USER", "CURRENT_ROLE", "SESSION_USER"] with
    | some word => pure ("OWNER TO " ++ word)
    | none => do pure ("OWNER TO " ++ (← name).text)
  | some "CLUSTER BY" => do pure ("CLUSTER BY " ++ inParentheses (← parenthesized deeper.exprTexts))
  | some "LOCK" =>
    switch "LOCK" ["DEFAULT", "EXCLUSIVE", "NONE", "SHARED"] "DEFAULT, EXCLUSIVE, NONE or SHARED"
  | some "ALGORITHM" =>
    switch "ALGORITHM" ["DEFAULT", "INSTANT", "INPLACE", "COPY"] "DEFAULT, INSTANT, INPLACE, or COPY"
  | some "AUTO_INCREMENT" => do
    let sign := if ← symbol? "=" then " = " else " "
    pure ("AUTO_INCREMENT" ++ sign ++ (← numericValue))
  | some "REPLICA IDENTITY" => replicaIdentity
  | some "VALIDATE CONSTRAINT" => do pure ("VALIDATE CONSTRAINT " ++ (← name).text)
  | some words => pure words
  | none =>
    match ← partition? deeper with
    | some before => do
      keyword "RENAME"
      keyword "TO"
      match ← partition? deeper with
      | some after => pure (before ++ " RENAME TO " ++ after)
      | none => expected "PARTITION"
    | none => optionsSet deeper

def table (deeper : Deeper) : Parser String := do
  let guard ← ifPresent
  let only ← word? "ONLY"
  let label ← dottedNameText
  let cluster? ← cluster?
  let changes ← listOf (change deeper)
  let place? ← match ← nameBehind? ["LOCATION"] with
    | some place => pure (some place)
    | none => nameBehind? ["SET", "LOCATION"]
  pure (Text.joined " " (["ALTER TABLE"] ++ guard ++ only ++ [label] ++ cluster?.toList ++
    [Text.joined ", " changes] ++ place?.toList))

def view (deeper : Deeper) : Parser String := do
  let label ← dottedNameText
  let columns ← optionalNames
  let options ← filledOptions deeper "WITH"
  keyword "AS"
  pure (Text.joined " " (["ALTER VIEW", label] ++ columns ++ options ++ ["AS", ← deeper.queryText]))

def index : Parser String := do
  let label ← dottedNameText
  if ← keyword? "RENAME" then
    if ← keyword? "TO" then pure ("ALTER INDEX " ++ label ++ " RENAME TO " ++ (← dottedNameText))
    else expected "TO after RENAME"
  else expected "RENAME after ALTER INDEX"

def alter (deeper : Deeper) : Parser String := do
  match ← oneOf ["VIEW", "TYPE", "TABLE", "INDEX", "ROLE", "POLICY", "CONNECTOR", "ICEBERG", "SCHEMA"] with
  | "VIEW" => view deeper
  | "INDEX" => index
  | "TABLE" => table deeper
  | _ => expected "TABLE"

/-! ## Emptying and removing -/

def truncate (deeper : Deeper) : Parser String := do
  let word ← word? "TABLE"
  let labels ← listOf do
    let only ← word? "ONLY"
    pure (Text.joined " " (only ++ [← dottedNameText]))
  let partition? ← partition? deeper
  let identity? ← phrase? [["RESTART", "IDENTITY"], ["CONTINUE", "IDENTITY"]]
  let behavior ← behavior
  let cluster? ← cluster?
  pure (Text.joined " " (["TRUNCATE"] ++ word ++ [Text.joined ", " labels] ++ identity?.toList ++ behavior ++
    partition?.toList ++ cluster?.toList))

/-- Functions with their arguments, behind the keyword. -/
def callables (deeper : Deeper) (beginning : String) : Parser String := do
  let guard ← ifPresent
  let items ← listOf do
    let label ← dottedNameText
    if ← symbol? "(" then
      let arguments ← listUntil ")" do
        let mode? ← oneOf? ["IN", "OUT", "INOUT"]
        pure (Text.joined " " (mode?.toList ++ [← DataType.text deeper]))
      symbol ")"
      pure (label ++ inParentheses arguments)
    else pure label
  pure (Text.joined " " ([beginning] ++ guard ++ [Text.joined ", " items] ++ (← behavior)))

def drop (deeper : Deeper) : Parser String := do
  let temporary ← word? "TEMPORARY"
  match ← phrase? [["TABLE"], ["VIEW"], ["MATERIALIZED", "VIEW"], ["INDEX"], ["ROLE"], ["SCHEMA"],
      ["DATABASE"], ["SEQUENCE"], ["STAGE"], ["TYPE"], ["USER"], ["STREAM"], ["FUNCTION"], ["PROCEDURE"],
      ["DOMAIN"], ["EXTENSION"]] with
  | none =>
    expected ("CONNECTOR, DATABASE, EXTENSION, FUNCTION, INDEX, POLICY, PROCEDURE, ROLE, SCHEMA, SECRET, " ++
      "SEQUENCE, STAGE, TABLE, TRIGGER, TYPE, VIEW, MATERIALIZED VIEW or USER after DROP")
  | some "FUNCTION" => callables deeper "DROP FUNCTION"
  | some "PROCEDURE" => callables deeper "DROP PROCEDURE"
  | some "DOMAIN" => do
    let guard ← ifPresent
    let label ← dottedNameText
    pure (Text.joined " " (["DROP DOMAIN"] ++ guard ++ [label] ++ (← behavior)))
  | some "EXTENSION" => do
    let guard ← ifPresent
    let labels ← listOf name
    pure (Text.joined " " (["DROP EXTENSION"] ++ guard ++ [Text.joined ", " (labels.map Ident.text)] ++
      (← behavior)))
  | some object => do
    let guard ← ifPresent
    let labels ← listOf dottedNameText
    let place ← here
    let cascade ← word? "CASCADE"
    let restrict ← word? "RESTRICT"
    let purge ← word? "PURGE"
    if ! cascade.isEmpty && ! restrict.isEmpty then
      reject ("Cannot specify both CASCADE and RESTRICT in DROP" ++ place)
    else if object = "ROLE" ∧ cascade ++ restrict ++ purge ≠ [] then
      reject ("Cannot specify CASCADE, RESTRICT, or PURGE in DROP ROLE" ++ place)
    else
      let table? ← clause? ["ON"] dottedNameText
      pure (Text.joined " " (["DROP"] ++ temporary ++ [object] ++ guard ++ [Text.joined ", " labels] ++
        cascade ++ restrict ++ purge ++ table?.toList))

end DialectConversion.Sql.Grammar.Alteration
