import DialectConversion.Sql.Grammar.Call
import DialectConversion.Sql.Grammar.Operator

/-! Expressions that start with a word and have a form of their own: casts, branches, fields of dates,
parts of texts, searches and lists. The forms are read behind their word. -/
namespace DialectConversion.Sql.Grammar.SpecialForm
set_option autoImplicit false
open Sql.Parser

/-! ## Dates and times -/

def temporalField : Parser String := do
  match ← oneOf? Keyword.temporalUnits with
  | some unit => do
    let day ← if unit = "WEEK" then
        if ← symbol? "(" then
          let day ← name
          symbol ")"
          pure ("(" ++ day.text ++ ")")
        else pure ""
      else pure ""
    pure (unit ++ day)
  | none => do pure (← nameAs "date/time field").text

/-- An interval behind its keyword, given a reader for its value. Seconds may have two precisions. -/
def interval (primary : Parser Expr) : Parser Expr := do
  let amount ← primary
  let unit? ← if Keyword.intervalUnits.contains (← key) then some <$> temporalField else pure none
  let precision : Parser (List String) := do
    if ← atSymbol "(" then pure ["(" ++ (← parenthesized wholeNumber) ++ ")"] else pure []
  let rest ← if unit? = some "SECOND" then
      if ← symbol? "(" then
        let leading ← wholeNumber
        let fraction? ← if ← symbol? "," then some <$> wholeNumber else pure none
        symbol ")"
        pure ["(" ++ Text.joined ", " (leading :: fraction?.toList) ++ ")"]
      else pure []
    else do
      let first ← precision
      if ← keyword? "TO" then
        let last ← temporalField
        let second ← if last = "SECOND" then precision else pure []
        pure (first ++ ["TO " ++ last] ++ second)
      else pure first
  pure (.other (Text.joined " " (["INTERVAL", amount.text] ++ unit?.toList ++ rest)))

def extractForm (deeper : Deeper) : Parser Expr := parenthesized do
  let field ← temporalField
  let sign ← if ← keyword? "FROM" then pure " FROM "
    else do
      if ← symbol? "," then pure ", " else reject "Expected 'FROM' or ','"
  pure (.other ("EXTRACT(" ++ field ++ sign ++ (← deeper.exprText) ++ ")"))

/-- Rounding to a field or to a number of digits. -/
def roundingForm (deeper : Deeper) (word : String) : Parser Expr := parenthesized do
  let operand ← deeper.exprText
  if ← keyword? "TO" then pure (.other (word ++ "(" ++ operand ++ " TO " ++ (← temporalField) ++ ")"))
  else if ← symbol? "," then
    let next? ← peek?
    let digits ← value
    match next? with
    | some (.number _ _) => pure (.other (word ++ "(" ++ operand ++ ", " ++ digits ++ ")"))
    | _ => reject "Scale field can only be of number type"
  else pure (.other (word ++ "(" ++ operand ++ ")"))

/-! ## Branches and casts -/

def caseForm (deeper : Deeper) : Parser Expr := do
  let operand ← if ← keyword? "WHEN" then pure []
    else
      let operand ← deeper.exprText
      keyword "WHEN"
      pure [operand]
  let branches ← separated (keyword? "WHEN") do
    let condition ← deeper.exprText
    keyword "THEN"
    pure ("WHEN " ++ condition ++ " THEN " ++ (← deeper.exprText))
  let fallback? ← clause? ["ELSE"] deeper.exprText
  keyword "END"
  pure (.other (Text.joined " " (["CASE"] ++ operand ++ branches ++ fallback?.toList ++ ["END"])))

def castForm (deeper : Deeper) (word : String) : Parser Expr := parenthesized do
  let operand ← deeper.exprText
  keyword "AS"
  let type ← DataType.text deeper
  let form? ← clause? ["FORMAT"] do
    let form ← value
    let zone? ← clause? ["AT", "TIME", "ZONE"] value
    pure (Text.joined " " (form :: zone?.toList))
  pure (.other (word ++ "(" ++ Text.joined " " ([operand, "AS", type] ++ form?.toList) ++ ")"))

def convertForm (deeper : Deeper) (word : String) : Parser Expr := parenthesized do
  let operand ← deeper.exprText
  if ← keyword? "USING" then
    pure (.other (word ++ "(" ++ operand ++ " USING " ++ (← dottedNameText) ++ ")"))
  else
    symbol ","
    let type ← DataType.text deeper
    let charset? ← clause? ["CHARACTER", "SET"] dottedNameText
    pure (.other (word ++ "(" ++ operand ++ ", " ++ Text.joined " " (type :: charset?.toList) ++ ")"))

/-! ## Texts -/

def positionForm (deeper : Deeper) : Parser Expr := parenthesized do
  let part ← deeper.operand Precedence.comparison
  keyword "IN"
  pure (.other ("POSITION(" ++ part.text ++ " IN " ++ (← deeper.exprText) ++ ")"))

/-- A part of a text, its bounds given behind keywords or behind commas. -/
def substringForm (deeper : Deeper) (word : String) : Parser Expr := parenthesized do
  let operand ← deeper.exprText
  let commas ← symbol? ","
  let first? ← if ← pure commas <||> keyword? "FROM" then some <$> deeper.exprText else pure none
  let length? ← if ← keyword? "FOR" <||> symbol? "," then some <$> deeper.exprText else pure none
  let part (sign : String) (content? : Option String) := match content? with
    | some content => (if commas then ", " else sign) ++ content
    | none => ""
  pure (.other (word ++ "(" ++ operand ++ part " FROM " first? ++ part " FOR " length? ++ ")"))

def overlayForm (deeper : Deeper) : Parser Expr := parenthesized do
  let operand ← deeper.exprText
  keyword "PLACING"
  let part ← deeper.exprText
  keyword "FROM"
  let first ← deeper.exprText
  let length? ← clause? ["FOR"] deeper.exprText
  pure (.other ("OVERLAY(" ++ Text.joined " " ([operand, "PLACING", part, "FROM", first] ++
    length?.toList) ++ ")"))

/-- Characters cut off the ends of a text. The side is dropped where the characters stand behind a
comma. -/
def trimForm (deeper : Deeper) : Parser Expr := parenthesized do
  let side? ← oneOf? ["BOTH", "LEADING", "TRAILING"]
  let operand ← deeper.exprText
  if ← keyword? "FROM" then
    let whole ← deeper.exprText
    pure (.other ("TRIM(" ++ Text.joined " " (side?.toList ++ [operand, "FROM", whole]) ++ ")"))
  else if ← symbol? "," then
    pure (.other ("TRIM(" ++ Text.joined ", " (operand :: (← deeper.exprTexts)) ++ ")"))
  else pure (.other ("TRIM(" ++ Text.joined " " (side?.toList ++ [operand]) ++ ")"))

/-- A search in columns. -/
def matchForm : Parser Expr := do
  let columns ← columnList dottedNameText
  keyword "AGAINST"
  let search ← parenthesized do
    let search ← value
    let manner? ← phrase? [
      ["IN", "NATURAL", "LANGUAGE", "MODE", "WITH", "QUERY", "EXPANSION"],
      ["IN", "NATURAL", "LANGUAGE", "MODE"], ["IN", "BOOLEAN", "MODE"], ["WITH", "QUERY", "EXPANSION"]]
    pure (Text.joined " " (search :: manner?.toList))
  pure (.other ("MATCH " ++ inParentheses columns ++ " AGAINST (" ++ search ++ ")"))

/-! ## Queries, lists and structures -/

def existsForm (deeper : Deeper) (word : String) : Parser Expr := parenthesized do
  pure (.other (word ++ " (" ++ (← deeper.queryText) ++ ")"))

/-- The elements of an array behind its opening bracket. -/
def arrayForm (deeper : Deeper) (word : String) : Parser Expr := do
  let elements ← listUntil "]" deeper.exprText
  symbol "]"
  pure (.other (word ++ "[" ++ Text.joined ", " elements ++ "]"))

/-- A structure: its fields may have types, or else names. -/
def structForm (deeper : Deeper) : Parser Expr := do
  let (types, overrun) ← DataType.structFields deeper (DataType.typeName deeper)
  if overrun then reject ("unmatched > in STRUCT literal" ++ (← here))
  else
    let fields ← parenthesized (listOf do
      let content ← deeper.exprText
      if ← keyword? "AS" then
        if types.isEmpty then pure (content ++ " AS " ++ (← name).text)
        else reject ("Typed syntax does not allow AS" ++ (← here))
      else pure content)
    let types := if types.isEmpty then "" else "<" ++ Text.joined ", " types ++ ">"
    pure (.other ("STRUCT" ++ types ++ inParentheses fields))

/-- Entries of keys and values, given a reader for keys, between braces. -/
def entries (deeper : Deeper) (label : Parser String) : Parser String := do
  symbol "\x7b"
  let entries ← listUntil "\x7d" do
    let label ← label
    symbol ":"
    pure (label ++ ": " ++ (← deeper.exprText))
  symbol "\x7d"
  pure ("\x7b" ++ Text.joined ", " entries ++ "\x7d")

/-! ## Forms by their words -/

def momentForm (deeper : Deeper) (written : String) : Parser Expr := do
  if ← symbol? "(" then
    let list ← deeper.argumentList
    let head : CallHead := {
      name := [⟨written, none⟩]
      treatment? := list.treatment?
      clauses := list.clauses }
    pure (.call head list.arguments .absent)
  else pure (.other written)

/-- Whether a symbol comes next, behind a word whose form needs it. -/
def whenAt (spelling : String) (form : Parser Expr) : Parser (Option Expr) := do
  if ← atSymbol spelling then some <$> form else pure none

/-- The special form of a word that was just passed, none where the word has none. The word is given
by its key and as it was written. -/
def read? (deeper : Deeper) (primary : Parser Expr) (key written : String) : Parser (Option Expr) := do
  match key with
  | "NULL" => pure (some (.value "NULL"))
  | "TRUE" => pure (some (.value "true"))
  | "FALSE" => pure (some (.value "false"))
  | "CURRENT_CATALOG" | "CURRENT_USER" | "SESSION_USER" | "USER" => pure (some (.other written))
  | "CURRENT_TIMESTAMP" | "CURRENT_TIME" | "CURRENT_DATE" | "LOCALTIME" | "LOCALTIMESTAMP" =>
    some <$> momentForm deeper written
  | "CASE" => some <$> caseForm deeper
  | "CONVERT" | "TRY_CONVERT" => some <$> convertForm deeper key
  | "CAST" | "TRY_CAST" | "SAFE_CAST" => some <$> castForm deeper key
  | "EXISTS" => some <$> existsForm deeper "EXISTS"
  | "EXTRACT" => some <$> extractForm deeper
  | "CEIL" | "FLOOR" => some <$> roundingForm deeper key
  | "POSITION" => whenAt "(" do
    match ← attempt (positionForm deeper) with
    | some e => pure e
    | none => deeper.call (interval primary) [⟨written, none⟩]
  | "SUBSTR" | "SUBSTRING" => some <$> substringForm deeper key
  | "OVERLAY" => some <$> overlayForm deeper
  | "TRIM" => some <$> trimForm deeper
  | "INTERVAL" => some <$> interval primary
  | "ARRAY" =>
    if ← symbol? "[" then some <$> arrayForm deeper "ARRAY"
    else whenAt "(" do
      pure (.other (written ++ "(" ++ (← parenthesized deeper.queryText) ++ ")"))
  | "STRUCT" => some <$> structForm deeper
  | "MAP" => whenAt "\x7b" do pure (.other ("MAP " ++ (← entries deeper deeper.exprText)))
  | "MATCH" => some <$> matchForm
  | "NOT" =>
    if ← keyword? "EXISTS" then some <$> existsForm deeper "NOT EXISTS"
    else pure (some (.other ("NOT " ++ (← deeper.operand Precedence.not).text)))
  | "PRIOR" =>
    if (← get).mode = .hierarchical then
      pure (some (.other ("PRIOR " ++ (← deeper.operand Precedence.sum).text)))
    else pure none
  | _ => pure none

end DialectConversion.Sql.Grammar.SpecialForm
