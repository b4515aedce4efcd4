import DialectConversion.Sql.Grammar.Column

/-! Statements that define tables, views, indexes and other objects. A reader with the name of an object begins
behind the keywords in front of it. -/
namespace DialectConversion.Sql.Grammar.Definition
set_option autoImplicit false
open Sql.Parser

/-- IF NOT EXISTS, where it comes next. -/
def ifMissing : Parser (List String) := words? ["IF", "NOT", "EXISTS"]

/-- A name behind a word, as text. -/
def nameBehind? (words : List String) : Parser (Option String) :=
  clause? words do pure (← name).text

/-- The servers that a definition is for. -/
def cluster? : Parser (Option String) := nameBehind? ["ON", "CLUSTER"]

/-- A text or a word behind a keyword, printed between single quotes as it is. -/
def labelBehind? (word : String) : Parser (Option String) :=
  clause? [word] do pure ("'" ++ (← literalString) ++ "'")

/-! ## Tables -/

/-- The columns and the constraints of a table. Columns are printed first. -/
structure TableItems where
  columns : List String := []
  constraints : List String := []

/-- The text of columns and constraints with their parentheses, nothing where there are none. -/
def TableItems.texts (items : TableItems) : List String :=
  let all := items.columns ++ items.constraints
  if all.isEmpty then [] else [inParentheses all]

/-- The columns and constraints of a table behind the opening parenthesis, and the closing one. -/
def tableItems (deeper : Deeper) : Parser TableItems := do
  let (columns, constraints, _) ← extend (fun (columns, constraints, ended) => do
    if ended then pure none
    else
      let (columns, constraints) ← match ← Column.constraint? deeper with
        | some constraint => pure (columns, constraint :: constraints)
        | none =>
          match ← peek? with
          | some (.word _ _ _) => do pure ((← Column.read deeper) :: columns, constraints)
          | _ => expected "column name or constraint definition"
      let comma ← symbol? ","
      if ← atSymbol ")" then
        if ! comma then advance
        pure (some (columns, constraints, ! comma))
      else if comma then pure (some (columns, constraints, false))
      else expected "',' or ')' after column definition") ([], [], false)
  pure { columns := columns.reverse, constraints := constraints.reverse }

/-- The columns and constraints of a table, where a parenthesis comes next. -/
def tableItems? (deeper : Deeper) : Parser TableItems := do
  if ← symbol? "(" then
    if ← symbol? ")" then pure {} else tableItems deeper
  else pure {}

/-! ### How rows are kept -/

def partitions? (deeper : Deeper) : Parser (Option String) :=
  clause? ["PARTITIONED", "BY"] do pure (inParentheses (← parenthesized (listOf (Column.read deeper))))

def buckets? (deeper : Deeper) : Parser (Option String) := clause? ["CLUSTERED", "BY"] do
  let columns ← nameList
  let sorted? ← clause? ["SORTED", "BY"] do pure (inParentheses (← parenthesized deeper.sortItems))
  keyword "INTO"
  let count ← numericValue
  keyword "BUCKETS"
  pure (Text.joined " " ([columns] ++ sorted?.toList ++ ["INTO", count, "BUCKETS"]))

/-- What stands between the parts of stored rows, behind the keyword. -/
def delimiters : Parser String := do
  keyword "FORMAT"
  let _ ← keyword? "DELIMITED"
  let reversed ← extend (fun found => do
    match ← phrase? [["FIELDS", "TERMINATED", "BY"], ["COLLECTION", "ITEMS", "TERMINATED", "BY"],
        ["MAP", "KEYS", "TERMINATED", "BY"], ["LINES", "TERMINATED", "BY"], ["NULL", "DEFINED", "AS"]] with
    | some words => do
      let mark := words ++ " " ++ (← name).text
      let escaped? ← if words = "FIELDS TERMINATED BY" then nameBehind? ["ESCAPED", "BY"] else pure none
      pure (some (escaped?.toList ++ mark :: found))
    | none => pure none) []
  pure (Text.joined " " ("ROW FORMAT DELIMITED" :: reversed.reverse))

def fileFormat (deeper : Deeper) : Parser String := do
  keyword "AS"
  match ← clause? ["INPUTFORMAT"] deeper.exprText with
  | some input => do
    keyword "OUTPUTFORMAT"
    pure ("STORED AS " ++ input ++ " OUTPUTFORMAT " ++ (← deeper.exprText))
  | none =>
    match ← oneOf? ["AVRO", "JSONFILE", "ORC", "PARQUET", "RCFILE", "SEQUENCEFILE", "TEXTFILE"] with
    | some format => pure ("STORED AS " ++ format)
    | none => expected "fileformat"

/-- How and where rows are stored. Of each clause the last one counts. -/
def storage (deeper : Deeper) : Parser (List String) := do
  let (rows, format, place) ← extend (fun (rows, format, place) => do
    match ← oneOf? ["ROW", "STORED", "LOCATION"] with
    | some "ROW" => do pure (some ([← delimiters], format, place))
    | some "STORED" => do pure (some (rows, [← fileFormat deeper], place))
    | some _ => do pure (some (rows, format, ["LOCATION '" ++ (← literalString) ++ "'"]))
    | none => pure none) ([], [], [])
  pure (rows ++ format ++ place)

/-! ### Options -/

def optionName? : Parser (Option String) :=
  phrase? [["DEFAULT", "CHARSET"], ["CHARSET"], ["DEFAULT", "CHARACTER", "SET"], ["CHARACTER", "SET"],
    ["DEFAULT", "COLLATE"], ["COLLATE"], ["DATA", "DIRECTORY"], ["INDEX", "DIRECTORY"], ["KEY_BLOCK_SIZE"],
    ["ROW_FORMAT"], ["PACK_KEYS"], ["STATS_AUTO_RECALC"], ["STATS_PERSISTENT"], ["STATS_SAMPLE_PAGES"],
    ["DELAY_KEY_WRITE"], ["COMPRESSION"], ["ENCRYPTION"], ["MAX_ROWS"], ["MIN_ROWS"], ["AUTOEXTEND_SIZE"],
    ["AVG_ROW_LENGTH"], ["CHECKSUM"], ["CONNECTION"], ["ENGINE_ATTRIBUTE"], ["PASSWORD"],
    ["SECONDARY_ENGINE_ATTRIBUTE"], ["INSERT_METHOD"], ["AUTO_INCREMENT"]]

def tableComment : Parser String := do
  let sign := if ← symbol? "=" then "COMMENT = '" else "COMMENT '"
  match ← peek? with
  | some (.literal .plain content) => advance *> pure (sign ++ content ++ "'")
  | token? =>
    reject ("Expected: Token::SingleQuotedString, found: " ++ (token?.map Token.described).getD "EOF")

def engine : Parser String := do
  let _ ← symbol? "="
  match ← peek? with
  | some (.word text _ _) => do
    advance
    let arguments ← if ← symbol? "(" then do
        let arguments ← listOf name
        symbol ")"
        pure (inParentheses (arguments.map Ident.text))
      else pure ""
    pure ("ENGINE = " ++ text ++ arguments)
  | _ => expected "Token::Word"

def tableSpace : Parser String := do
  let _ ← symbol? "="
  let label ← match ← peek? with
    | some (.word text _ _) | some (.literal .plain text) => advance *> pure text
    | _ => expected "Token::Word"
  if ← keyword? "STORAGE" then
    let _ ← symbol? "="
    match ← oneOf? ["DISK", "MEMORY"] with
    | some medium => pure ("TABLESPACE " ++ label ++ " STORAGE " ++ medium)
    | none =>
      match ← peek? with
      | some (.word _ _ _) => expected "Storage type (DISK or MEMORY)"
      | _ => expected "Token::Word"
  else pure ("TABLESPACE " ++ label)

/-- The tables that a table is made up of, behind the keyword. -/
def parts : Parser String := do
  let _ ← symbol? "="
  unless ← symbol? "(" do expected "Token::LParen"
  let tables ← listUntil ")" name
  symbol ")"
  pure ("UNION = " ++ (if tables.isEmpty then "" else inParentheses (tables.map Ident.text)))

/-- An option without parentheses around it, none where none comes next. -/
def plainOption? : Parser (Option String) := do
  match ← phrase? [["START", "TRANSACTION"], ["COMMENT"], ["ENGINE"], ["TABLESPACE"], ["UNION"]] with
  | some "COMMENT" => some <$> tableComment
  | some "ENGINE" => some <$> engine
  | some "TABLESPACE" => some <$> tableSpace
  | some "UNION" => some <$> parts
  | some words => pure (some words)
  | none =>
    match ← optionName? with
    | some label => do
      let _ ← symbol? "="
      let content ← match ← attempt value with
        | some content => pure content
        | none => do pure (← name).text
      pure (some (label ++ " = " ++ content))
    | none => pure none

/-- Options without parentheses around them, with commas between them or without. -/
def plainOptions : Parser (List String) := do
  let reversed ← extend (fun found => do
    match ← plainOption? with
    | some option => do
      let _ ← symbol? ","
      pure (some (option :: found))
    | none => pure none) []
  pure reversed.reverse

/-- Options in parentheses behind a keyword, none where there are none between the parentheses. -/
def filledOptions (deeper : Deeper) (word : String) : Parser (List String) := do
  match ← optionItems? deeper word with
  | some items => pure (if items.isEmpty then [] else [word ++ " " ++ inParentheses items])
  | none => pure []

/-- Parts of a definition that are printed at different places. -/
structure TableConfig where
  /-- Options in front of the order of rows. -/
  options : List String := []
  inherits? : Option String := none
  partition? : Option String := none
  cluster? : Option String := none
  /-- Options behind the order of rows. -/
  lateOptions : List String := []

/-- How a table is set up. Of the kinds of options the last one counts. -/
def tableConfig (deeper : Deeper) : Parser TableConfig := do
  let inherits? ← clause? ["INHERITS"] do pure (inParentheses (← columnList dottedNameText))
  let first ← filledOptions deeper "WITH"
  let second ← filledOptions deeper "TBLPROPERTIES"
  let partition? ← clause? ["PARTITION", "BY"] deeper.exprText
  let cluster? ← clause? ["CLUSTER", "BY"] (Text.joined ", " <$> deeper.exprTexts)
  let late ← optionsBehind? deeper "OPTIONS"
  let keyed := if second.isEmpty then first else second
  let plain ← if keyed.isEmpty ∧ late.isNone then plainOptions else pure []
  pure {
    options := if late.isSome then [] else keyed ++ plain
    inherits? := inherits?
    partition? := partition?
    cluster? := cluster?
    lateOptions := late.toList }

/-- The order that rows are kept in: an expression, or several in parentheses. -/
def rowOrder? (deeper : Deeper) : Parser (Option String) := clause? ["ORDER", "BY"] do
  if ← atSymbol "(" then pure (inParentheses (← parenthesized (listUntil ")" deeper.exprText)))
  else deeper.exprText

def onCommit? : Parser (Option String) := clause? ["ON", "COMMIT"] do
  match ← phrase? [["DELETE", "ROWS"], ["PRESERVE", "ROWS"], ["DROP"]] with
  | some words => pure words
  | none =>
    reject ("Expecting DELETE ROWS, PRESERVE ROWS or DROP" ++ ((← peek?).map Token.described).getD "EOF")

def table (deeper : Deeper) (beginning : List String) : Parser String := do
  let guard ← ifMissing
  let label ← dottedNameText
  let cluster? ← cluster?
  let like? ← if (← oneOf? ["LIKE", "ILIKE"]).isSome then do pure (some ("LIKE " ++ (← dottedNameText)))
    else pure none
  let clone? ← if ← keyword? "CLONE" then pass dottedNameText else pure none
  let items ← tableItems? deeper
  let rowless ← words? ["WITHOUT", "ROWID"]
  let partitions? ← partitions? deeper
  let buckets? ← buckets? deeper
  let storage ← storage deeper
  let config ← tableConfig deeper
  let primary? ← clause? ["PRIMARY", "KEY"] deeper.exprText
  let order? ← rowOrder? deeper
  let onCommit? ← onCommit?
  let strict ← word? "STRICT"
  let query? ← clause? ["AS"] deeper.queryText
  let items := if items.texts.isEmpty && query?.isNone && like?.isNone && clone?.isNone then ["()"]
    else items.texts
  pure (Text.joined " " (beginning ++ ["TABLE"] ++ guard ++ [label] ++ cluster?.toList ++ items ++ rowless ++
    like?.toList ++ (clone?.map fun label => "CLONE " ++ label).toList ++ partitions?.toList ++
    buckets?.toList ++ storage ++ config.options ++ primary?.toList ++ order?.toList ++
    config.inherits?.toList ++ config.partition?.toList ++ config.cluster?.toList ++ config.lateOptions ++
    onCommit?.toList ++ strict ++ query?.toList))

def externalTable (deeper : Deeper) (beginning : List String) : Parser String := do
  keyword "TABLE"
  let guard ← ifMissing
  let label ← dottedNameText
  let items ← tableItems? deeper
  let partitions? ← partitions? deeper
  let storage ← storage deeper
  let options ← filledOptions deeper "TBLPROPERTIES"
  let items := if items.texts.isEmpty then ["()"] else items.texts
  pure (Text.joined " " (beginning ++ ["EXTERNAL TABLE"] ++ guard ++ [label] ++ items ++
    partitions?.toList ++ storage ++ options))

def virtualTable : Parser String := do
  keyword "TABLE"
  let guard ← ifMissing
  let label ← dottedNameText
  keyword "USING"
  let source ← name
  pure (Text.joined " " (["CREATE VIRTUAL TABLE"] ++ guard ++ [label, "USING", source.text] ++
    (← optionalNames)))

/-! ## Views -/

def user : Parser String := do
  match ← dottedName with
  | [single] =>
    if ← symbol? "@" then pure (single.text ++ "@" ++ (← name).text) else pure single.text
  | several => pure (dottedText several)

/-- With whose rights a view works, and how. -/
def viewParameters : Parser (List String) := do
  let algorithm? ← if ← keyword? "ALGORITHM" then do
      symbol "="
      pure (some ("ALGORITHM = " ++ (← oneOf ["UNDEFINED", "MERGE", "TEMPTABLE"])))
    else pure none
  let definer? ← if ← keyword? "DEFINER" then do
      symbol "="
      pure (some ("DEFINER = " ++ (← user)))
    else pure none
  let security? ← clause? ["SQL", "SECURITY"] (oneOf ["DEFINER", "INVOKER"])
  pure ([algorithm?, definer?, security?].filterMap id)

def viewColumn (deeper : Deeper) : Parser String := do
  let label ← name
  let options ← Column.options deeper
  pure (Text.joined " " (label.text :: (if options.isEmpty then [] else [Text.joined ", " options])))

/-- The columns of a view. Empty parentheses are dropped. -/
def viewColumns (deeper : Deeper) : Parser (List String) := do
  if ← symbol? "(" then
    let columns ← listUntil ")" (viewColumn deeper)
    symbol ")"
    pure (if columns.isEmpty then [] else [inParentheses columns])
  else pure []

/-- CREATE VIEW behind what stands in front of these words. Its name may stand in front of IF NOT
EXISTS. -/
def view (deeper : Deeper) (beginning temporary : List String) : Parser String := do
  let secure ← word? "SECURE"
  let materialized ← word? "MATERIALIZED"
  keyword "VIEW"
  let guard ← ifMissing
  let label ← dottedNameText
  let lateGuard ← if guard.isEmpty then ifMissing else pure []
  let columns ← viewColumns deeper
  let options ← filledOptions deeper "WITH"
  let cluster ← if ← keyword? "CLUSTER" then do
      keyword "BY"
      pure ((← optionalNames).map fun names => "CLUSTER BY " ++ names)
    else pure []
  let late? ← optionItems? deeper "OPTIONS"
  let late := if late?.getD [] = [] then [] else ["OPTIONS" ++ inParentheses (late?.getD [])]
  let target? ← clause? ["TO"] dottedNameText
  let comment ← if ← keyword? "COMMENT" then do
      symbol "="
      pure ["COMMENT = " ++ (← Column.comment)]
    else pure []
  keyword "AS"
  let query ← deeper.queryText
  let unbound ← words? ["WITH", "NO", "SCHEMA", "BINDING"]
  pure (Text.joined " " (beginning ++ secure ++ materialized ++ temporary ++ ["VIEW"] ++ guard ++ [label] ++
    lateGuard ++ target?.toList ++ columns ++ (if late.isEmpty then options else []) ++ comment ++ cluster ++
    late ++ ["AS", query] ++ unbound))

/-! ## Indexes -/

def index (deeper : Deeper) (beginning : List String) : Parser String := do
  let concurrently ← word? "CONCURRENTLY"
  let guard ← ifMissing
  let nameless ← if guard.isEmpty then keyword? "ON" else pure false
  let (label, first?) ← if nameless then pure ([], none)
    else do
      let label ← dottedNameText
      let method? ← Column.indexMethod?
      keyword "ON"
      pure ([label], method?)
  let table ← dottedNameText
  let second? ← Column.indexMethod?
  let items ← Column.indexItems deeper
  let covered? ← clause? ["INCLUDE"] do pure (inParentheses ((← parenthesized (listOf name)).map Ident.text))
  let nulls ← Column.nullsDistinct
  let options? ← clause? ["WITH"] do pure (inParentheses (← parenthesized deeper.exprTexts))
  let condition? ← clause? ["WHERE"] deeper.exprText
  let method := match second?.or first? with
    | some method => " " ++ method ++ " "
    | none => ""
  pure (Text.joined " " (beginning ++ ["INDEX"] ++ concurrently ++ guard ++ label ++
    ["ON", table ++ method ++ items] ++ covered?.toList ++ nulls ++ options?.toList ++ condition?.toList ++
    (← Column.indexOptions)))

/-! ## Other objects -/

def schemaName : Parser (List String) := do
  match ← nameBehind? ["AUTHORIZATION"] with
  | some owner => pure [owner]
  | none => do
    let label ← dottedNameText
    pure (label :: (← nameBehind? ["AUTHORIZATION"]).toList)

def schema (deeper : Deeper) : Parser String := do
  let guard ← ifMissing
  let label ← schemaName
  let collation? ← clause? ["DEFAULT", "COLLATE"] deeper.exprText
  let options ← optionItems? deeper "WITH"
  let late? ← optionsBehind? deeper "OPTIONS"
  let clone? ← clause? ["CLONE"] dottedNameText
  pure (Text.joined " " (["CREATE SCHEMA"] ++ guard ++ label ++ collation?.toList ++
    (options.map fun items => "WITH " ++ inParentheses items).toList ++ late?.toList ++ clone?.toList))

/-- CREATE DATABASE behind its keywords. Of each place the last one counts. -/
def database : Parser String := do
  let guard ← ifMissing
  let label ← dottedNameText
  let (place, managed) ← extend (fun (place, managed) => do
    match ← labelBehind? "LOCATION" with
    | some text => pure (some ([text], managed))
    | none => pure ((← labelBehind? "MANAGEDLOCATION").map fun text => (place, [text]))) ([], [])
  let clone? ← clause? ["CLONE"] dottedNameText
  pure (Text.joined " " (["CREATE DATABASE"] ++ guard ++ [label] ++ place ++ managed ++ clone?.toList))

def sequence (deeper : Deeper) (temporary : List String) : Parser String := do
  let guard ← ifMissing
  let label ← dottedNameText
  let type? ← clause? ["AS"] (DataType.text deeper)
  let options ← Column.sequenceOptions
  let owner? ← clause? ["OWNED", "BY"] do
    if ← keyword? "NONE" then pure "NONE" else dottedNameText
  pure (Text.joined " " (["CREATE"] ++ temporary ++ ["SEQUENCE"] ++ guard ++ [label] ++ type?.toList ++
    options ++ owner?.toList))

/-- The parts of a type behind the opening parenthesis, and the closing one. A comma may end them. -/
def attributes (deeper : Deeper) : Parser (List String) := do
  let (reversed, _) ← extend (fun (found, ended) => do
    if ended then pure none
    else
      let label ← name
      let type ← DataType.text deeper
      let collation? ← clause? ["COLLATE"] dottedNameText
      let found := Text.joined " " ([label.text, type] ++ collation?.toList) :: found
      let comma ← symbol? ","
      if ← symbol? ")" then pure (some (found, true))
      else if comma then pure (some (found, false))
      else expected "',' or ')' after attribute definition") ([], false)
  pure reversed.reverse

def type (deeper : Deeper) : Parser String := do
  let label ← dottedNameText
  keyword "AS"
  let content ← if ← keyword? "ENUM" then do
      pure ("ENUM " ++ inParentheses ((← parenthesized (listUntil ")" name)).map Ident.text))
    else do
      if ← symbol? "(" then
        if ← symbol? ")" then pure "()" else inParentheses <$> attributes deeper
      else pure "()"
  pure ("CREATE TYPE " ++ label ++ " AS " ++ content)

def domain (deeper : Deeper) : Parser String := do
  let label ← dottedNameText
  keyword "AS"
  let type ← DataType.text deeper
  let collation? ← nameBehind? ["COLLATE"]
  let default? ← clause? ["DEFAULT"] deeper.exprText
  let reversed ← extend (fun found => do
    pure ((← Column.constraint? deeper).map fun constraint => constraint :: found)) []
  pure (Text.joined " " (["CREATE DOMAIN", label, "AS", type] ++ collation?.toList ++ default?.toList ++
    reversed.reverse))

def extension : Parser String := do
  let guard ← ifMissing
  let label ← name
  let details ← if ← keyword? "WITH" then do
      let schema? ← nameBehind? ["SCHEMA"]
      let version? ← nameBehind? ["VERSION"]
      pure (schema?.toList ++ version?.toList ++ (← word? "CASCADE"))
    else pure []
  pure (Text.joined " " (["CREATE EXTENSION"] ++ guard ++ [label.text] ++
    (if details.isEmpty then [] else ["WITH"] ++ details)))

def role : Parser String := do
  let guard ← ifMissing
  let labels ← listOf dottedNameText
  let _ ← keyword? "WITH"
  pure (Text.joined " " (["CREATE ROLE"] ++ guard ++ [Text.joined ", " labels]))

def create (deeper : Deeper) : Parser String := do
  let replace ← words? ["OR", "REPLACE"]
  let change ← words? ["OR", "ALTER"]
  let local_ ← word? "LOCAL"
  let global ← word? "GLOBAL"
  let scope := if global.isEmpty then local_ else global
  let transient ← word? "TRANSIENT"
  let temporary := (← oneOf? ["TEMPORARY", "TEMP"]).toList.map fun _ => "TEMPORARY"
  let parameters ← viewParameters
  if ← keyword? "TABLE" then table deeper (["CREATE"] ++ replace ++ scope ++ temporary ++ transient)
  else if (← atKeywords ["MATERIALIZED"]) || (← atKeywords ["VIEW"]) || (← atKeywords ["SECURE", "VIEW"]) ||
      (← atKeywords ["SECURE", "MATERIALIZED", "VIEW"]) then
    view deeper (["CREATE"] ++ change ++ replace ++ parameters) temporary
  else if ← keyword? "EXTERNAL" then externalTable deeper (["CREATE"] ++ replace)
  else if ← keyword? "DOMAIN" then domain deeper
  else if ! replace.isEmpty then
    expected "[EXTERNAL] TABLE or [MATERIALIZED] VIEW or FUNCTION after CREATE OR REPLACE"
  else if ← keyword? "EXTENSION" then extension
  else if ← keyword? "INDEX" then index deeper ["CREATE"]
  else if ← keywords? ["UNIQUE", "INDEX"] then index deeper ["CREATE", "UNIQUE"]
  else if ← keyword? "VIRTUAL" then virtualTable
  else if ← keyword? "SCHEMA" then schema deeper
  else if ← keyword? "DATABASE" then database
  else if ← keyword? "ROLE" then role
  else if ← keyword? "SEQUENCE" then sequence deeper temporary
  else if ← keyword? "TYPE" then type deeper
  else expected "an object type after CREATE"

end DialectConversion.Sql.Grammar.Definition
