import DialectConversion.Sql.Grammar.Query

/-! Columns of tables with their options, and constraints on tables. -/
namespace DialectConversion.Sql.Grammar.Column
set_option autoImplicit false
open Sql.Parser

/-! ## Parts of constraints -/

/-- When a constraint is checked at first. -/
def initially? : Parser (Option String) := clause? ["INITIALLY"] do
  match ← oneOf? ["DEFERRED", "IMMEDIATE"] with
  | some time => pure time
  | none => expected "one of DEFERRED or IMMEDIATE"

/-- When a constraint is checked, and whether it is. -/
def characteristics : Parser (List String) :=
  onceEach [phrase? [["NOT", "DEFERRABLE"], ["DEFERRABLE"]], initially?,
    phrase? [["ENFORCED"], ["NOT", "ENFORCED"]]]

def referenceAction : Parser String := do
  match ← phrase? [["RESTRICT"], ["CASCADE"], ["SET", "NULL"], ["NO", "ACTION"], ["SET", "DEFAULT"]] with
  | some action => pure action
  | none => expected "one of RESTRICT, CASCADE, SET NULL, NO ACTION or SET DEFAULT"

/-- What happens to referring rows, and when the reference is checked. -/
def referenceClauses : Parser (List String) := do
  let actions ← onceEach
    [clause? ["ON", "DELETE"] referenceAction, clause? ["ON", "UPDATE"] referenceAction]
  pure (actions ++ (← characteristics))

/-- Options of a sequence, in their fixed order. -/
def sequenceOptions : Parser (List String) := do
  let increment? ← numbered? "INCREMENT" "BY"
  let least? ← bound? "MINVALUE"
  let greatest? ← bound? "MAXVALUE"
  let start? ← numbered? "START" "WITH"
  let cache? ← clause? ["CACHE"] signedValue
  let cycle? ← phrase? [["NO", "CYCLE"], ["CYCLE"]]
  pure ([increment?, least?, greatest?, start?, cache?, cycle?].filterMap id)
where
  numbered? (word filler : String) : Parser (Option String) := clause? [word] do
    let filler ← word? filler
    pure (Text.joined " " (filler ++ [← signedValue]))
  bound? (word : String) : Parser (Option String) := do
    match ← clause? [word] signedValue with
    | some bound => pure (some bound)
    | none => phrase? [["NO", word]]

/-! ## Indexes -/

def indexMethod : Parser String := do
  match ← oneOf? ["BTREE", "HASH", "GIN", "GIST", "SPGIST", "BRIN", "BLOOM"] with
  | some method => pure method
  | none => do pure (← name).text

def indexMethod? : Parser (Option String) := clause? ["USING"] indexMethod

/-- An indexed expression. The class of its operators is printed behind its direction. -/
def indexItem (deeper : Deeper) : Parser String := do
  let item ← deeper.exprText
  let operators? ← if ["ASC", "DESC", "NULLS", "WITH"].contains (← key) then pure none
    else attempt name
  let direction ← sortDirection
  let fill? ← deeper.fill?
  pure (Text.joined " " ([item] ++ direction ++ fill?.toList ++ (operators?.map Ident.text).toList))

def indexItems (deeper : Deeper) : Parser String := do
  pure (inParentheses (← columnList (indexItem deeper)))

def indexOptions : Parser (List String) := do
  let reversed ← extend (fun found => do
    match ← indexMethod? with
    | some method => pure (some (method :: found))
    | none =>
      let comment? ← clause? ["COMMENT"] do pure ("'" ++ (← literalString) ++ "'")
      pure (comment?.map fun comment => comment :: found)) []
  pure reversed.reverse

/-- How nulls count in an index without duplicates. -/
def nullsDistinct : Parser (List String) := do
  if ← keyword? "NULLS" then
    let negation ← word? "NOT"
    keyword "DISTINCT"
    pure [Text.joined " " (["NULLS"] ++ negation ++ ["DISTINCT"])]
  else pure []

/-! ## Options of columns -/

/-- The value of an option. In parentheses the words NOT NULL have their usual meaning. -/
def optionValue (deeper : Deeper) : Parser String := do
  if ← atSymbol "(" then pure (← within .plain (Expression.primary deeper)).text else deeper.exprText

/-- An expression in parentheses, in which the words NOT NULL have their usual meaning. -/
def plainCondition (deeper : Deeper) : Parser String := do
  pure (inParentheses [← parenthesized (within .plain deeper.exprText)])

def comment : Parser String := do
  match ← peek? with
  | some (.literal .plain content) | some (.literal (.dollar _) content) =>
    advance *> pure (Text.betweenQuotes '\'' content)
  | _ => expected "string literal"

/-- How a value is computed from others, and whether the result is stored. -/
def computed (value : Parser String) : Parser String := do
  let value ← value
  pure (Text.joined " " (["AS", value] ++ (← oneOf? ["STORED", "VIRTUAL"]).toList))

/-- A value that is generated, behind the keyword. The keyword may stand in front of something else. -/
def generated? (deeper : Deeper) : Parser (Option String) := do
  match ← phrase? [["ALWAYS", "AS", "IDENTITY"], ["BY", "DEFAULT", "AS", "IDENTITY"], ["ALWAYS", "AS"]] with
  | some "ALWAYS AS" =>
    if ← atSymbol "(" then
      pure (some ("GENERATED ALWAYS " ++ (← computed (plainCondition deeper))))
    else pure none
  | some words => do
    let options ← if ← atSymbol "(" then parenthesized sequenceOptions else pure []
    pure (some (Text.joined " " (["GENERATED", words] ++
      (if options.isEmpty then [] else ["("] ++ options ++ [")"]))))
  | none => pure none

/-- Numbers for the rows of a table, behind the keyword. -/
def identity : Parser String := do
  if ← symbol? "(" then
    let seed ← signedValue
    symbol ","
    let increment ← signedValue
    symbol ")"
    pure ("IDENTITY" ++ inParentheses [seed, increment])
  else pure "IDENTITY"

/-- An option of a column that is a run of words with something behind it, none where none comes
next. -/
def wordedOption? (deeper : Deeper) : Parser (Option String) := do
  match ← phrase? [["CHARACTER", "SET"], ["COLLATE"], ["NOT", "NULL"], ["COMMENT"], ["NULL"], ["DEFAULT"],
      ["MATERIALIZED"], ["ALIAS"], ["EPHEMERAL"], ["PRIMARY", "KEY"], ["UNIQUE"], ["REFERENCES"], ["CHECK"],
      ["AUTO_INCREMENT"], ["AUTOINCREMENT"], ["ASC"], ["DESC"], ["ON", "UPDATE"], ["SRID"],
      ["ON", "CONFLICT"]] with
  | none => pure none
  | some words => do
    let content ← match words with
      | "CHARACTER SET" | "COLLATE" => do pure [← dottedNameText]
      | "COMMENT" => do pure [← comment]
      | "DEFAULT" | "MATERIALIZED" | "ALIAS" | "ON UPDATE" => do pure [← optionValue deeper]
      | "EPHEMERAL" => do
        if (← atSymbol ",") || (← atSymbol ")") then pure [] else pure [← optionValue deeper]
      | "PRIMARY KEY" | "UNIQUE" => characteristics
      | "REFERENCES" => do
        let table ← dottedNameText
        let columns ← optionalNames
        pure ([table] ++ columns ++ (← referenceClauses))
      | "CHECK" => do pure [← plainCondition deeper]
      | "SRID" => do pure [← deeper.exprText]
      | "ON CONFLICT" => do pure [← oneOf ["ROLLBACK", "ABORT", "FAIL", "IGNORE", "REPLACE"]]
      | _ => pure []
    pure (some (Text.joined " " (words :: content)))

def option? (deeper : Deeper) : Parser (Option String) := within .columnDefinition do
  match ← wordedOption? deeper with
  | some text => pure (some text)
  | none =>
    if ← keyword? "GENERATED" then generated? deeper
    else if ← keyword? "AS" then
      some <$> computed do pure (inParentheses [← parenthesized deeper.exprText])
    else if ← keyword? "IDENTITY" then some <$> identity
    else do pure ((← optionItems? deeper "OPTIONS").map fun items => "OPTIONS" ++ inParentheses items)

def options (deeper : Deeper) : Parser (List String) := do
  let reversed ← extend (fun found => do
    pure ((← option? deeper).map fun option => option :: found)) []
  pure reversed.reverse

def namedOptions (deeper : Deeper) : Parser (List String) := do
  let reversed ← extend (fun found => do
    if ← keyword? "CONSTRAINT" then
      let label ← name
      match ← option? deeper with
      | some option => pure (some (("CONSTRAINT " ++ label.text ++ " " ++ option) :: found))
      | none => expected "constraint details after CONSTRAINT <name>"
    else pure ((← option? deeper).map fun option => option :: found)) []
  pure reversed.reverse

/-- A column with its type and its options. -/
def read (deeper : Deeper) : Parser String := do
  let label ← name
  let type ← DataType.text deeper
  pure (Text.joined " " (label.text :: type :: (← namedOptions deeper)))

/-! ## Constraints on tables -/

/-- An index without duplicates, behind its words. -/
def uniqueness (deeper : Deeper) (words : List String) : Parser (List String) := do
  let label? ← attempt name
  let method? ← indexMethod?
  let items ← indexItems deeper
  let options ← indexOptions
  pure (words ++ (label?.map Ident.text).toList ++ method?.toList ++ [items] ++ options ++
    (← characteristics))

def foreignKey : Parser (List String) := do
  let label? ← attempt name
  let columns ← nameList
  keyword "REFERENCES"
  let table ← dottedNameText
  let referred ← optionalNames
  pure (["FOREIGN KEY"] ++ (label?.map Ident.text).toList ++
    [columns, "REFERENCES", table ++ String.join referred] ++ (← referenceClauses))

def plainIndex (deeper : Deeper) (word : String) : Parser (List String) := do
  let label? ← if ← atKeywords ["USING"] then pure none else attempt name
  let method? ← indexMethod?
  let items ← indexItems deeper
  let options ← indexOptions
  let options := if options.isEmpty then [] else [Text.joined ", " options]
  pure ([word] ++ (label?.map Ident.text).toList ++ method?.toList ++ [items] ++ options)

/-- An index for searching text or places, behind its keyword. -/
def searchIndex (deeper : Deeper) (word : String) : Parser (List String) := do
  let form? ← oneOf? ["KEY", "INDEX"]
  let label? ← attempt name
  pure ([word] ++ form?.toList ++ (label?.map Ident.text).toList ++ [← indexItems deeper])

/-- A constraint on a table, none where none comes next. -/
def constraint? (deeper : Deeper) : Parser (Option String) := do
  let label? ← if ← keyword? "CONSTRAINT" then some <$> name else pure none
  let label := (label?.map fun label => "CONSTRAINT " ++ label.text).toList
  let finished (words : List String) : Option String := some (Text.joined " " (label ++ words))
  match ← key with
  | "UNIQUE" => do
    advance
    let form? ← oneOf? ["KEY", "INDEX"]
    let nulls ← nullsDistinct
    finished <$> uniqueness deeper (["UNIQUE"] ++ nulls ++ form?.toList)
  | "PRIMARY" => keywords ["PRIMARY", "KEY"] *> finished <$> uniqueness deeper ["PRIMARY KEY"]
  | "FOREIGN" => keywords ["FOREIGN", "KEY"] *> finished <$> foreignKey
  | "CHECK" => do
    advance
    let condition ← parenthesized deeper.exprText
    let enforced? ← phrase? [["ENFORCED"], ["NOT", "ENFORCED"]]
    pure (finished (["CHECK", inParentheses [condition]] ++ enforced?.toList))
  | word => do
    match label? with
    | some label =>
      if ["FULLTEXT", "SPATIAL"].contains word then
        reject ("Expected: FULLTEXT or SPATIAL option without constraint name, found: " ++ label.text ++
          (← here))
      else expected "PRIMARY, UNIQUE, FOREIGN, or CHECK"
    | none =>
      if ["INDEX", "KEY"].contains word then advance *> finished <$> plainIndex deeper word
      else if ["FULLTEXT", "SPATIAL"].contains word then advance *> finished <$> searchIndex deeper word
      else pure none

end DialectConversion.Sql.Grammar.Column
