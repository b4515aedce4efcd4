import DialectConversion.Sql.Grammar.Table

/-! The select: its list of items and its clauses, in their fixed order. -/
namespace DialectConversion.Sql.Grammar.Select
set_option autoImplicit false
open Sql.Parser

/-! ## Items -/

/-- Names in parentheses, or a lone name. -/
def nameOrNames : Parser String := do
  if ← symbol? "(" then
    let names ← listOf name
    symbol ")"
    pure (inParentheses (names.map Ident.text))
  else pure (← name).text

/-- Names in parentheses, or a lone name, which gets parentheses too. -/
def namesLeftOut : Parser String := do
  if ← atSymbol "(" then nameList else pure (inParentheses [(← name).text])

/-- A name that another one is put in place of. -/
def renamedItem : Parser String := do
  let before ← name
  keyword "AS"
  pure (before.text ++ " AS " ++ (← name).text)

/-- A pattern that the names of columns fit. -/
def namePattern : Parser String := do
  match ← peek? with
  | some (.literal .plain _) => value
  | _ => expected "ilike pattern"

/-- An expression in place of a column. The word AS may be left out. -/
def replacement (deeper : Deeper) : Parser String := do
  let item ← deeper.exprText
  let sign := if ← keyword? "AS" then " AS " else " "
  pure (item ++ sign ++ (← name).text)

/-- What is left out of a star or replaced in it. -/
def starOptions (deeper : Deeper) : Parser (List String) := do
  let pattern? ← clause? ["ILIKE"] namePattern
  let excluded? ← if pattern?.isSome then pure none else clause? ["EXCLUDE"] nameOrNames
  let except? ← clause? ["EXCEPT"] namesLeftOut
  let replaced? ← clause? ["REPLACE"] do
    unless ← atSymbol "(" do expected "( after REPLACE but"
    pure (inParentheses (← parenthesized (listOf (replacement deeper))))
  let renamed? ← clause? ["RENAME"] do
    if ← atSymbol "(" then pure (inParentheses (← parenthesized (listOf renamedItem)))
    else renamedItem
  pure ([pattern?, excluded?, except?, replaced?, renamed?].filterMap id)

/-- An item of a select list. The word FROM is no column unless it is quoted. -/
def item (deeper : Deeper) : Parser SelectItem := do
  match ← deeper.starred with
  | .inr star => pure (.other (Text.joined " " (star :: (← starOptions deeper))))
  | .inl (.name [⟨word, none⟩]) =>
    if Text.equalIgnoringAsciiCase word "from" then
      reject ("Expected an expression, found: " ++ word ++ (← here))
    else aliased (.name [⟨word, none⟩])
  | .inl e => aliased e
where
  aliased (e : Expr) : Parser SelectItem := do
    match ← alias? Keyword.closingColumn with
    | some name => pure (.aliased e name)
    | none => pure (.expr e)

/-- Whether another item follows, behind a comma. A comma may also end the list. -/
def anotherItem : Parser Bool := do
  if ← symbol? "," then
    match ← peek? with
    | none => pure false
    | some token =>
      pure (! (Keyword.closingColumn.contains (token.key?.getD "") ||
        [")", ";", "]", "\x7d"].any fun s => token == .symbol s))
  else pure false

/-! ## Clauses -/

def top? (deeper : Deeper) : Parser (Option String) := do
  if ← keyword? "TOP" then
    let quantity ← if ← symbol? "(" then do
        let quantity ← deeper.exprText
        symbol ")"
        pure ("(" ++ quantity ++ ")")
      else wholeNumber
    let percent ← if ← keyword? "PERCENT" then pure ["PERCENT"] else pure []
    let ties ← if ← keywords? ["WITH", "TIES"] then pure ["WITH TIES"] else pure []
    pure (some (Text.joined " " (["TOP", quantity] ++ percent ++ ties)))
  else pure none

/-- DISTINCT with the expressions that rows are told apart by. ALL is the default and is dropped. -/
def distinct? (deeper : Deeper) : Parser (Option String) := do
  let start ← here
  let all ← keyword? "ALL"
  if ← keyword? "DISTINCT" then
    if all then reject ("Cannot specify both ALL and DISTINCT" ++ start)
    else if ← keyword? "ON" then
      let keys ← parenthesized (listUntil ")" deeper.exprText)
      pure (some ("DISTINCT ON " ++ inParentheses keys))
    else pure (some "DISTINCT")
  else pure none

def into? : Parser (Option String) := do
  if ← keyword? "INTO" then
    let temporary? ← oneOf? ["TEMPORARY", "TEMP"]
    let unlogged? ← oneOf? ["UNLOGGED"]
    let table? ← oneOf? ["TABLE"]
    pure (some (Text.joined " " (["INTO"] ++ (temporary?.map fun _ => "TEMPORARY").toList ++
      unlogged?.toList ++ table?.toList ++ [← dottedNameText])))
  else pure none

def lateralViews (deeper : Deeper) : Parser (List String) := do
  let reversed ← extend (fun found => do
    if ← keywords? ["LATERAL", "VIEW"] then
      let outer ← if ← keyword? "OUTER" then pure ["OUTER"] else pure []
      let call ← deeper.exprText
      let view ← dottedNameText
      let columns ← listOf (alias? ["WHERE", "GROUP", "CLUSTER", "HAVING", "LATERAL"])
      let columns := (columns.filterMap id).map Ident.text
      let columns := if columns.isEmpty then [] else ["AS " ++ Text.joined ", " columns]
      pure (some (Text.joined " " (["LATERAL VIEW"] ++ outer ++ [call, view] ++ columns) :: found))
    else pure none) []
  pure reversed.reverse

/-- START WITH and CONNECT BY, in either order. -/
def connectBy? (deeper : Deeper) : Parser (Option String) := do
  if ["START", "CONNECT"].contains (← key) then
    let links := do
      keywords ["CONNECT", "BY"]
      within .hierarchical deeper.exprTexts
    let roots := do
      keywords ["START", "WITH"]
      deeper.exprText
    let (root, link) ← if ← atKeywords ["CONNECT", "BY"] then do
        let link ← links
        pure (← roots, link)
      else do
        let root ← roots
        pure (root, ← links)
    pure (some ("START WITH " ++ root ++ " CONNECT BY " ++ Text.joined ", " link))
  else pure none

/-- Expressions in parentheses to group by together, or none in empty parentheses. -/
def tuple (deeper : Deeper) : Parser (List String) := parenthesized (listUntil ")" deeper.exprText)

/-- Expressions to group by together. A single one may stand without parentheses. -/
def tupleOrExpr (deeper : Deeper) : Parser (List String) := do
  if ← atSymbol "(" then tuple deeper else pure [← deeper.exprText]

/-- A member of a family of groupings. A single expression stands without parentheses. -/
def memberText (items : List String) : String :=
  match items with
  | [single] => single
  | several => inParentheses several

def groupingSets (member : Parser (List String)) : Parser String := do
  let members ← parenthesized (listOf member)
  pure ("GROUPING SETS " ++ inParentheses (members.map inParentheses))

/-- An expression to group by, or a family of groupings. -/
def groupItem (deeper : Deeper) : Parser String := do
  if ← keywords? ["GROUPING", "SETS"] then groupingSets (tuple deeper)
  else
    match ← oneOf? ["CUBE", "ROLLUP"] with
    | some word => do
      let members ← parenthesized (listOf (tupleOrExpr deeper))
      pure (word ++ " " ++ inParentheses (members.map memberText))
    | none =>
      if (← atSymbol "(") && (← ahead? 1) == some (.symbol ")") then
        advance *> advance *> pure "()"
      else deeper.exprText

/-- The grouping of rows. Further groupings may stand behind the modifiers. -/
def groupBy? (deeper : Deeper) : Parser (Option String) := do
  if ← keywords? ["GROUP", "BY"] then
    let items ← if ← keyword? "ALL" then pure "ALL"
      else Text.joined ", " <$> listOf (groupItem deeper)
    let modifiers ← extend (fun found => do
      if ← keyword? "WITH" then
        pure (some (("WITH " ++ (← oneOf ["ROLLUP", "CUBE", "TOTALS"])) :: found))
      else pure none) []
    let sets ← if ← keywords? ["GROUPING", "SETS"] then do
        pure [← groupingSets (tupleOrExpr deeper)]
      else pure []
    pure (some (Text.joined " " (["GROUP BY", items] ++ modifiers.reverse ++ sets)))
  else pure none

def namedWindow (deeper : Deeper) (interval : Parser Expr) : Parser String := do
  let window ← name
  keyword "AS"
  if ← symbol? "(" then
    pure (window.text ++ " AS " ++ ((← deeper.windowSpec interval).text?.getD ""))
  else pure (window.text ++ " AS " ++ (← name).text)

/-- The named windows and the QUALIFY clause, and whether the windows come first. -/
def windows (deeper : Deeper) (interval : Parser Expr) : Parser (List String × Option String × Bool) := do
  let named : Parser (List String) := do
    if ← keyword? "WINDOW" then listOf (namedWindow deeper interval) else pure []
  let qualify : Parser (Option String) := do
    if ← keyword? "QUALIFY" then some <$> deeper.exprText else pure none
  if ← atKeywords ["WINDOW"] then
    let first ← named
    pure (first, ← qualify, true)
  else
    let condition ← qualify
    if condition.isSome then pure (← named, condition, false) else pure ([], none, false)

/-- A list of items behind two keywords, empty where they do not come next. -/
def listBehind (words : List String) (items : Parser (List String)) : Parser (List String) := do
  if ← keywords? words then items else pure []

def exprBehind? (deeper : Deeper) (word : String) : Parser (Option Expr) := do
  if ← keyword? word then some <$> deeper.expr else pure none

/-- A select. Its tables may come first, and then the list of items may be missing. -/
def read (deeper : Deeper) (interval : Parser Expr) : Parser Select := do
  let leading ← if ← keyword? "FROM" then Table.list deeper interval else pure []
  if ! leading.isEmpty && ! (← atKeywords ["SELECT"]) then
    pure { order := .tablesOnly, tables := leading }
  else
    keyword "SELECT"
    let distinct? ← distinct? deeper
    let top? ← top? deeper
    let projection ← if ← atKeywords ["FROM"] then pure []
      else separated anotherItem (item deeper)
    let into? ← into?
    let tables ← if ! leading.isEmpty then pure leading
      else do
        if ← keyword? "FROM" then Table.list deeper interval else pure []
    let lateralViews ← lateralViews deeper
    let prewhere? ← exprBehind? deeper "PREWHERE"
    let selection? ← exprBehind? deeper "WHERE"
    let groupBy? ← groupBy? deeper
    let clusterBy ← listBehind ["CLUSTER", "BY"] deeper.exprTexts
    let distributeBy ← listBehind ["DISTRIBUTE", "BY"] deeper.exprTexts
    let sortBy ← listBehind ["SORT", "BY"] deeper.sortItems
    let having? ← exprBehind? deeper "HAVING"
    let (windows, qualify?, windowsFirst) ← windows deeper interval
    let connectBy? ← connectBy? deeper
    pure {
      order := if leading.isEmpty then .listFirst else .tablesFirst
      distinct? := distinct?
      top? := top?
      projection := projection
      into? := into?
      tables := tables
      lateralViews := lateralViews
      prewhere? := prewhere?.map Expr.text
      selection? := selection?
      groupBy? := groupBy?
      clusterBy := clusterBy
      distributeBy := distributeBy
      sortBy := sortBy
      having? := having?.map Expr.text
      windows := windows
      qualify? := qualify?
      windowsFirst := windowsFirst
      connectBy? := connectBy? }

end DialectConversion.Sql.Grammar.Select
