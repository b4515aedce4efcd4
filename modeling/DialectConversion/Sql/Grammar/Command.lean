import DialectConversion.Sql.Grammar.Definition

/-! Statements that are orders to the database: to look after objects, to call and to prepare statements,
and to move through rows. A reader with the name of a statement begins behind its keyword. -/
namespace DialectConversion.Sql.Grammar.Command
set_option autoImplicit false
open Sql.Parser Definition

/-! ## Looking after objects -/

def analyze (deeper : Deeper) : Parser String := do
  let word ← word? "TABLE"
  let label ← dottedNameText
  let clauses ← onceEach [
    clause? ["PARTITION"] do pure (inParentheses (← parenthesized deeper.exprTexts)),
    phrase? [["COMPUTE", "STATISTICS"]],
    phrase? [["NOSCAN"]],
    phrase? [["CACHE", "METADATA"]],
    clause? ["FOR", "COLUMNS"] do
      pure (Text.joined ", " (((← attempt (listOf name)).getD []).map Ident.text))]
  pure (Text.joined " " (["ANALYZE"] ++ word ++ [label] ++ clauses))

def comment : Parser String := do
  let guard ← words? ["IF", "EXISTS"]
  keyword "ON"
  let kind ← match ← phrase? [["COLUMN"], ["DATABASE"], ["DOMAIN"], ["EXTENSION"], ["FUNCTION"], ["INDEX"],
      ["MATERIALIZED", "VIEW"], ["PROCEDURE"], ["ROLE"], ["SCHEMA"], ["SEQUENCE"], ["TABLE"], ["TYPE"],
      ["USER"], ["VIEW"]] with
    | some kind => pure kind
    | none => expected "comment object_type"
  let label ← dottedNameText
  keyword "IS"
  let text ← if ← keyword? "NULL" then pure "NULL" else do pure ("'" ++ (← literalString) ++ "'")
  pure (Text.joined " " (["COMMENT"] ++ guard ++ ["ON", kind, label, "IS", text]))

def rename : Parser String := do
  if ← keyword? "TABLE" then
    let names ← listOf do
      let before ← dottedNameText
      keyword "TO"
      pure (before ++ " TO " ++ (← dottedNameText))
    pure ("RENAME TABLE " ++ Text.joined ", " names)
  else expected "KEYWORD \x60TABLE\x60 after RENAME"

def attach (deeper : Deeper) : Parser String := do
  let word ← word? "DATABASE"
  let file ← deeper.exprText
  keyword "AS"
  pure (Text.joined " " (["ATTACH"] ++ word ++ [file, "AS", (← name).text]))

def detach : Parser String := do
  let word ← word? "DATABASE"
  let guard ← words? ["IF", "EXISTS"]
  pure (Text.joined " " (["DETACH"] ++ word ++ guard ++ [(← name).text]))

def check : Parser String := do
  let repair ← word? "REPAIR"
  keyword "TABLE"
  let label ← dottedNameText
  let action? ← phrase? [["ADD", "PARTITIONS"], ["DROP", "PARTITIONS"], ["SYNC", "PARTITIONS"]]
  pure (Text.joined " " (["MSCK"] ++ repair ++ ["TABLE", label] ++ action?.toList))

def uncache : Parser String := do
  keyword "TABLE"
  let guard ← words? ["IF", "EXISTS"]
  pure (Text.joined " " (["UNCACHE TABLE"] ++ guard ++ [← dottedNameText]))

def optimize (deeper : Deeper) : Parser String := do
  keyword "TABLE"
  let label ← dottedNameText
  let cluster? ← cluster?
  let partition? ← clause? ["PARTITION"] do
    match ← nameBehind? ["ID"] with
    | some label => pure label
    | none => deeper.exprText
  let final ← word? "FINAL"
  let distinct? ← clause? ["DEDUPLICATE", "BY"] deeper.exprText
  let distinct ← if distinct?.isSome then pure distinct?.toList else word? "DEDUPLICATE"
  pure (Text.joined " " (["OPTIMIZE TABLE", label] ++ cluster?.toList ++ partition?.toList ++ final ++
    distinct))

/-! ## Calling and preparing -/

def call (deeper : Deeper) : Parser String := do
  let function ← dottedName
  if ← atSymbol "(" then
    pure ("CALL " ++ (← deeper.call (Expression.interval deeper) function).text)
  else pure ("CALL " ++ dottedText function)

def prepare (deeper : Deeper) : Parser String := do
  let label ← name
  let types ← if ← atSymbol "(" then do
      pure [inParentheses (← parenthesized (listOf (DataType.text deeper)))]
    else pure []
  keyword "AS"
  pure (Text.joined " " (["PREPARE", label.text] ++ types ++ ["AS", (← deeper.statement).text]))

def discard : Parser String := do
  match ← oneOf? ["ALL", "PLANS", "SEQUENCES", "TEMP", "TEMPORARY"] with
  | some "TEMPORARY" => pure "DISCARD TEMP"
  | some word => pure ("DISCARD " ++ word)
  | none => expected "ALL, PLANS, SEQUENCES, TEMP or TEMPORARY after DISCARD"

def pragma : Parser String := do
  let label ← dottedNameText
  let content : Parser String := do
    match ← peek? with
    | some (.word _ none _) => expected "number or string or ? placeholder"
    | _ => Parser.value
  if ← symbol? "(" then
    let content ← content
    symbol ")"
    pure ("PRAGMA " ++ label ++ inParentheses [content])
  else if ← symbol? "=" then pure ("PRAGMA " ++ label ++ " = " ++ (← content))
  else pure ("PRAGMA " ++ label)

def kill : Parser String := do
  let kind? ← oneOf? ["CONNECTION", "QUERY", "MUTATION"]
  pure (Text.joined " " (["KILL"] ++ kind?.toList ++ [← wholeNumber]))

def allOrOne (word : String) (one : Parser String) : Parser String := do
  if ← keyword? "ALL" then pure (word ++ " ALL") else pure (word ++ " " ++ (← one))

def execute (deeper : Deeper) : Parser String := do
  let label ← dottedNameText
  let arguments ← if ← symbol? "(" then do
      let arguments ← listUntil ")" deeper.exprText
      symbol ")"
      pure (if arguments.isEmpty then "" else inParentheses arguments)
    else do
      let ended := ["USING", "OUTPUT", "DEFAULT"].contains (← key)
      if ended || (← peek?).isNone || (← atSymbol ";") then pure ""
      else pure (" " ++ Text.joined ", " (← deeper.exprTexts))
  let into? ← clause? ["INTO"] do pure (Text.joined ", " ((← listOf name).map Ident.text))
  let using? ← clause? ["USING"] (Text.joined ", " <$> listOf (namedExpr deeper))
  let output ← word? "OUTPUT"
  let default ← word? "DEFAULT"
  pure (Text.joined " " (["EXECUTE", label ++ arguments] ++ into?.toList ++ using?.toList ++ output ++
    default))

/-! ## Moving through rows -/

def declare (deeper : Deeper) : Parser String := do
  let label ← name
  let binary ← word? "BINARY"
  let sensitive? ← phrase? [["INSENSITIVE"], ["ASENSITIVE"]]
  let scroll? ← phrase? [["SCROLL"], ["NO", "SCROLL"]]
  keyword "CURSOR"
  let hold? ← clause? ["WITH"] (keyword "HOLD" *> pure "HOLD")
  let hold? ← if hold?.isSome then pure hold? else clause? ["WITHOUT"] (keyword "HOLD" *> pure "HOLD")
  keyword "FOR"
  pure (Text.joined " " (["DECLARE", label.text] ++ binary ++ sensitive?.toList ++ scroll?.toList ++
    ["CURSOR"] ++ hold?.toList ++ ["FOR", ← deeper.queryText]))

/-- Which rows are fetched. -/
def direction : Parser String := do
  match ← phrase? [["NEXT"], ["PRIOR"], ["FIRST"], ["LAST"], ["ABSOLUTE"], ["RELATIVE"], ["FORWARD", "ALL"],
      ["FORWARD"], ["BACKWARD", "ALL"], ["BACKWARD"], ["ALL"]] with
  | none => numericValue
  | some words =>
    if ["ABSOLUTE", "RELATIVE", "FORWARD", "BACKWARD"].contains words then
      pure (words ++ " " ++ (← numericValue))
    else pure words

def fetch : Parser String := do
  let direction ← direction
  match ← oneOf? ["FROM", "IN"] with
  | none => reject ("Expected FROM or IN" ++ (← here))
  | some word => do
    let label ← name
    let into? ← clause? ["INTO"] dottedNameText
    pure (Text.joined " " (["FETCH", direction, word, label.text] ++ into?.toList))

/-! ## Any command -/

/-- What stands behind the first word of a command, none where the word starts no command. -/
def worded? (deeper : Deeper) (word : String) : Option (Parser String) :=
  let label : Parser String := do pure (← name).text
  match word with
  | "USE" => some do pure ("USE " ++ (← dottedNameText))
  | "ANALYZE" => some (analyze deeper)
  | "COMMENT" => some comment
  | "RENAME" => some rename
  | "ATTACH" => some (attach deeper)
  | "DETACH" => some detach
  | "MSCK" => some check
  | "UNCACHE" => some uncache
  | "OPTIMIZE" => some (optimize deeper)
  | "LOAD" | "INSTALL" => some do pure (word ++ " " ++ (← label))
  | "CALL" => some (call deeper)
  | "PREPARE" => some (prepare deeper)
  | "EXECUTE" | "EXEC" => some (execute deeper)
  | "DEALLOCATE" => some do
    let word ← word? "PREPARE"
    pure (Text.joined " " (["DEALLOCATE"] ++ word ++ [← label]))
  | "ASSERT" => some do
    let condition ← deeper.exprText
    pure (Text.joined " " (["ASSERT", condition] ++ (← clause? ["AS"] deeper.exprText).toList))
  | "DISCARD" => some discard
  | "RESET" => some (allOrOne "RESET" dottedNameText)
  | "PRAGMA" => some pragma
  | "KILL" => some kill
  | "PRINT" => some do pure ("PRINT " ++ (← deeper.exprText))
  | "RETURN" => some do pure (Text.joined " " ("RETURN" :: (← attempt deeper.exprText).toList))
  | "DECLARE" => some (declare deeper)
  | "FETCH" => some fetch
  | "CLOSE" => some (allOrOne "CLOSE" label)
  | _ => none

end DialectConversion.Sql.Grammar.Command
