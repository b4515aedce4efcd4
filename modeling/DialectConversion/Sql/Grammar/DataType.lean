import DialectConversion.Sql.Grammar.Option
import DialectConversion.Sql.Keyword

/-! Names of data types, read as their canonical text. Types of the language have a spelling of their
own, most of them in upper case; any other name is a type too and stays as it is. Types may be made
of other types, in parentheses or between angle brackets. Two closing angle brackets in a row are one
token: the inner type passes both and says so. -/
namespace DialectConversion.Sql.Grammar
set_option autoImplicit false
open Sql.Parser

/-- What may follow the name of a type of the language. -/
inductive TypeTail where
  | none
  /-- UNSIGNED. -/
  | sign
  /-- A whole number, and then SIGNED, which is dropped, or UNSIGNED. -/
  | integer
  /-- A whole number. -/
  | precision
  /-- A length with a unit, or MAX. -/
  | length
  /-- A length or MAX. -/
  | binaryLength
  /-- A precision and a scale. -/
  | scaled
  /-- A precision and a scale, and then UNSIGNED. -/
  | signedScaled
  /-- A precision, and whether there is a time zone. -/
  | clock

/-- How a type was named, as far as it matters for what may stand behind it. -/
inductive TypeKind where
  /-- A type of the language. -/
  | known
  | interval
  /-- A name that is no type of the language. -/
  | custom
  deriving DecidableEq

/-- A type as it was read. -/
structure TypeName where
  text : String
  kind : TypeKind := .known
  /-- A closing angle bracket too many was passed. -/
  overrun : Bool := false

namespace DataType

/-- The types of the language that are named by one word and are spelled like it. -/
def upperCase : List (String × TypeTail) :=
  (["BOOLEAN", "BOOL", "FLOAT4", "FLOAT8", "FLOAT64", "INT64", "HUGEINT", "UBIGINT", "UHUGEINT",
    "USMALLINT", "UTINYINT", "UUID", "DATE", "TIMESTAMP_NTZ", "JSON", "JSONB", "REGCLASS", "TEXT",
    "TINYTEXT", "MEDIUMTEXT", "LONGTEXT", "TINYBLOB", "MEDIUMBLOB", "LONGBLOB", "BYTEA", "TSVECTOR",
    "TSQUERY", "TRIGGER"].map fun w => (w, .none)) ++
  (["REAL", "DOUBLE PRECISION"].map fun w => (w, .sign)) ++
  (["TINYINT", "INT2", "SMALLINT", "MEDIUMINT", "INT", "INT4", "INT8", "INTEGER",
    "BIGINT"].map fun w => (w, .integer)) ++
  (["CHARACTER LARGE OBJECT", "CHAR LARGE OBJECT", "CLOB", "BINARY", "BLOB", "BYTES", "BIT VARYING",
    "BIT", "VARBIT", "DATETIME", "TIMESTAMPTZ", "TIMETZ", "STRING"].map fun w => (w, .precision)) ++
  (["VARCHAR", "NVARCHAR", "CHARACTER VARYING", "CHARACTER", "CHAR VARYING",
    "CHAR"].map fun w => (w, .length)) ++
  [("VARBINARY", .binaryLength)] ++
  (["NUMERIC", "BIGNUMERIC", "BIGDECIMAL"].map fun w => (w, .scaled)) ++
  (["FLOAT", "DOUBLE", "DECIMAL", "DEC"].map fun w => (w, .signedScaled)) ++
  (["TIME", "TIMESTAMP"].map fun w => (w, .clock))

/-- The types of the language whose spelling is not all in upper case. -/
def mixedCase : List (String × String) := [
  ("DATE32", "Date32"), ("FLOAT32", "Float32"), ("INT16", "Int16"), ("INT32", "Int32"),
  ("INT128", "Int128"), ("INT256", "Int256"), ("UINT8", "UInt8"), ("UINT16", "UInt16"),
  ("UINT32", "UInt32"), ("UINT64", "UInt64"), ("UINT128", "UInt128"), ("UINT256", "UInt256")]

/-! ## Sizes -/

def optionalPrecision : Parser String := do
  if ← atSymbol "(" then pure ("(" ++ (← parenthesized wholeNumber) ++ ")") else pure ""

/-- A length in parentheses, with a unit where the type has units; empty where there is none. -/
def optionalLength (units : List String) : Parser String := do
  if ← symbol? "(" then
    let length ← if ← keyword? "MAX" then pure "MAX"
      else do
        let length ← wholeNumber
        pure (Text.joined " " (length :: (← oneOf? units).toList))
    symbol ")"
    pure ("(" ++ length ++ ")")
  else pure ""

def optionalScale : Parser String := do
  if ← symbol? "(" then
    let precision ← wholeNumber
    let scale? ← if ← symbol? "," then some <$> signedNumber else pure none
    symbol ")"
    pure ("(" ++ Text.joined "," (precision :: scale?.toList) ++ ")")
  else pure ""

def optionalSign : Parser String := do
  if ← keyword? "UNSIGNED" then pure " UNSIGNED" else pure ""

def optionalZone : Parser String := do
  match ← oneOf? ["WITH", "WITHOUT"] with
  | some word => do
    keywords ["TIME", "ZONE"]
    pure (" " ++ word ++ " TIME ZONE")
  | none => pure ""

/-- What follows the name of a type of the language. -/
def tail : TypeTail → Parser String
  | .none => pure ""
  | .sign => optionalSign
  | .integer => do
    let precision ← optionalPrecision
    let sign ← optionalSign
    if sign.isEmpty then
      let _ ← keyword? "SIGNED"
    pure (precision ++ sign)
  | .precision => optionalPrecision
  | .length => optionalLength ["CHARACTERS", "OCTETS"]
  | .binaryLength => optionalLength []
  | .scaled => optionalScale
  | .signedScaled => do
    let scale ← optionalScale
    pure (scale ++ (← optionalSign))
  | .clock => do
    let precision ← optionalPrecision
    pure (precision ++ (← optionalZone))

/-- The further words of the types that are named by several. -/
def furtherWords (first : String) : Parser String := do
  let further? ← phrase? (
    if first = "DOUBLE" then [["PRECISION"]]
    else if first = "CHAR" ∨ first = "CHARACTER" then [["VARYING"], ["LARGE", "OBJECT"]]
    else if first = "BIT" then [["VARYING"]]
    else [])
  pure (Text.joined " " (first :: further?.toList))

def intervalFields : Parser (List String) := do
  let upTo (first : String) (last : List String) : Parser (List String) := do
    if ← keyword? "TO" then
      let last ← match last with
        | [only] => keyword only *> pure only
        | several => oneOf several
      pure [first ++ " TO " ++ last]
    else pure [first]
  match ← oneOf? ["YEAR", "DAY", "HOUR", "MINUTE", "MONTH", "SECOND"] with
  | none => pure []
  | some "YEAR" => upTo "YEAR" ["MONTH"]
  | some "DAY" => upTo "DAY" ["HOUR", "MINUTE", "SECOND"]
  | some "HOUR" => upTo "HOUR" ["MINUTE", "SECOND"]
  | some "MINUTE" => upTo "MINUTE" ["SECOND"]
  | some unit => pure [unit]

/-! ## Names that are no types of the language -/

/-- One modifier of a type that is not one of the language. -/
def modifier : Parser String := do
  match ← peek? with
  | some (.word text quote? _) => advance *> pure (Token.word text quote? "").described
  | some (.number digits _) => advance *> pure digits
  | some (.literal .plain content) => advance *> pure content
  | _ => expected "type modifiers"

/-- The modifiers of a type that is not one of the language, empty where there are none. -/
def modifiers : Parser String := do
  if ← symbol? "(" then
    let items ← extend (fun items => do
      if ← atSymbol ")" then pure none
      else if ← symbol? "," then pure (some items)
      else pure (some ((← modifier) :: items))) []
    symbol ")"
    pure (if items.isEmpty then "" else "(" ++ Text.joined ", " items.reverse ++ ")")
  else pure ""

/-! ## Types with values -/

def enumValue : Parser String := do
  let label ← literalString
  if ← symbol? "=" then
    pure (Text.betweenQuotes '\'' label ++ " = " ++ (← signedValue))
  else pure (Text.betweenQuotes '\'' label)

def setValues : Parser String := do
  symbol "("
  let more : Parser Bool := do
    if ← symbol? "," then pure true
    else if ← atSymbol ")" then pure false
    else expected ", or \x7d"
  let values ← separated more do
    match ← peek? with
    | some (.literal .plain content) => advance *> pure (Text.betweenQuotes '\'' content)
    | _ => expected "a string"
  symbol ")"
  pure ("SET(" ++ Text.joined ", " values ++ ")")

/-! ## Types made of types -/

/-- The closing angle bracket behind a type, given whether that type already passed it. The answer
says whether a bracket too many was passed. -/
def closeAngle (passed : Bool) : Parser Bool := do
  if passed then pure false
  else if ← symbol? ">" then pure false
  else if ← symbol? ">>" then pure true
  else expected ">"

/-- A field of a structure: a type with a name in front of it where two words or a word and a colon
come next. -/
def field (deeper : Deeper) (type : Parser TypeName) : Parser TypeName := do
  let label ← match ← ahead? 0, ← ahead? 1 with
    | some (.word _ _ _), some (.word _ _ _) => do pure [(← name).text]
    | some (.word _ _ _), some (.symbol ":") => do
      let label ← name
      symbol ":"
      pure [label.text]
    | _, _ => pure []
  let type ← type
  let options ← optionsBehind? deeper "OPTIONS"
  pure { type with text := Text.joined " " (label ++ [type.text] ++ options.toList) }

/-- The fields of a structure between angle brackets, none where no bracket opens them. -/
def structFields (deeper : Deeper) (type : Parser TypeName) : Parser (List String × Bool) := do
  if ← symbol? "<" then
    let first ← field deeper type
    let (fields, passed) ← extend (fun (fields, passed) => do
      if passed then pure none
      else if ← symbol? "," then
        let next ← field deeper type
        pure (some (next.text :: fields, next.overrun))
      else pure none) ([first.text], first.overrun)
    pure (fields.reverse, ← closeAngle passed)
  else pure ([], false)

/-- A type inside another one, which may not pass a bracket of the outer one. -/
def whole (type : Parser TypeName) : Parser String := do
  let type ← type
  if type.overrun then
    let found := match ← peek? with
      | some token => token.described
      | none => "EOF"
    reject ("unmatched > after parsing data type " ++ type.text ++ found)
  else pure type.text

/-- A type that is made of other types and starts with a word that was just passed, none where the
word starts no such type. -/
def composed? (deeper : Deeper) (type : Parser TypeName) (word : String) :
    Parser (Option TypeName) := do
  let wrapped (label : String) : Parser (Option TypeName) := do
    pure (some { text := label ++ "(" ++ (← parenthesized (whole type)) ++ ")" })
  let listed (label : String) (item : Parser String) : Parser (Option TypeName) := do
    pure (some { text := label ++ "(" ++ Text.joined ", " (← parenthesized (listOf item)) ++ ")" })
  match word with
  | "ARRAY" => do
    symbol "<"
    let inner ← type
    pure (some { text := "ARRAY<" ++ inner.text ++ ">", overrun := ← closeAngle inner.overrun })
  | "STRUCT" => do
    let (fields, overrun) ← structFields deeper type
    pure (some {
      text := if fields.isEmpty then "STRUCT" else "STRUCT<" ++ Text.joined ", " fields ++ ">"
      overrun := overrun })
  | "NULLABLE" => wrapped "Nullable"
  | "LOWCARDINALITY" => wrapped "LowCardinality"
  | "MAP" => do
    let text ← parenthesized do
      let key ← whole type
      symbol ","
      pure (key ++ ", " ++ (← whole type))
    pure (some { text := "Map(" ++ text ++ ")" })
  | "TUPLE" => listed "Tuple" do pure (← field deeper type).text
  | "UNION" => listed "UNION" do
    let label ← name
    pure (label.text ++ " " ++ (← whole type))
  | "NESTED" => listed "Nested" deeper.column
  | "TABLE" =>
    if ← atSymbol "(" then listed "TABLE" deeper.column else pure (some { text := "TABLE" })
  | _ => pure none

/-! ## All types -/

/-- A type of the language that is not made of others and starts with a word that was just passed,
none where the word starts no such type. -/
def known? (word : String) : Parser (Option TypeName) := do
  match mixedCase.lookup word with
  | some spelling => pure (some { text := spelling })
  | none =>
    if (upperCase.lookup word).isSome then
      let words ← furtherWords word
      let tail ← tail ((upperCase.lookup words).getD .none)
      pure (some { text := words ++ tail })
    else
      match word with
      | "SIGNED" | "UNSIGNED" => do
        let integer? ← oneOf? ["INTEGER"]
        pure (some { text := Text.joined " " (word :: integer?.toList) })
      | "INTERVAL" => do
        let fields ← intervalFields
        let precision ← optionalPrecision
        pure (some { text := Text.joined " " ("INTERVAL" :: fields) ++ precision, kind := .interval })
      | "DATETIME64" => do
        let text ← parenthesized do
          let precision ← wholeNumber
          if ← symbol? "," then pure (precision ++ ", '" ++ (← literalString) ++ "'")
          else pure precision
        pure (some { text := "DateTime64(" ++ text ++ ")" })
      | "FIXEDSTRING" => do
        pure (some { text := "FixedString(" ++ (← parenthesized wholeNumber) ++ ")" })
      | "ENUM" | "ENUM8" | "ENUM16" => do
        let values ← parenthesized (listOf enumValue)
        pure (some { text := word ++ "(" ++ Text.joined ", " values ++ ")" })
      | "SET" => do pure (some { text := ← setValues })
      | "ANY" => do
        if ← keyword? "TYPE" then pure (some { text := "ANY TYPE" }) else pure none
      | _ => pure none

/-- The brackets behind a type that make it an array. -/
def withBrackets (type : TypeName) : Parser TypeName :=
  extend (fun t => do
    if ← symbol? "[" then
      let size? ← attempt wholeNumber
      symbol "]"
      pure (some { t with text := t.text ++ "[" ++ size?.getD "" ++ "]", kind := .known })
    else pure none) type

/-- A type, with types inside it nested so many times at most. -/
def within (deeper : Deeper) : Nat → Parser TypeName
  | 0 => expected "a data type name"
  | steps + 1 => do
    match ← peek? with
    | some (.word _ _ word) => do
      let start ← get
      advance
      let known? ← known? word
      let found? ← if known?.isSome then pure known?
        else composed? deeper (within deeper steps) word
      match found? with
      | some type => withBrackets type
      | none =>
        set start
        let name ← dottedNameText
        withBrackets { text := name ++ (← modifiers), kind := .custom }
    | _ => expected "a data type name"

def typeName (deeper : Deeper) : Parser TypeName := do
  within deeper ((← get).tokens.length + 1)

def text (deeper : Deeper) : Parser String := whole (typeName deeper)

end DataType
end DialectConversion.Sql.Grammar
