import DialectConversion.Sql.Grammar.DataType

/-! Calls: their arguments, the clauses behind them and their windows. -/
namespace DialectConversion.Sql
set_option autoImplicit false
open Sql.Parser Grammar

/-! ## Sorting and windows -/

/-- How gaps between sorted rows are filled. -/
def Deeper.fill? (deeper : Deeper) : Parser (Option String) := do
  if ← keywords? ["WITH", "FILL"] then
    let first? ← clause? ["FROM"] deeper.exprText
    let last? ← clause? ["TO"] deeper.exprText
    let step? ← clause? ["STEP"] deeper.exprText
    pure (some (Text.joined " " ("WITH FILL" :: [first?, last?, step?].filterMap id)))
  else pure none

/-- The direction that is sorted in, and the place of nulls. -/
def Parser.sortDirection : Parser (List String) := do
  let direction? ← oneOf? ["ASC", "DESC"]
  let nulls? ← phrase? [["NULLS", "FIRST"], ["NULLS", "LAST"]]
  pure (direction?.toList ++ nulls?.toList)

/-- An expression to sort by, with its direction, the place of nulls and the filling of gaps. -/
def Deeper.sortItem (deeper : Deeper) : Parser String := do
  let item ← deeper.exprText
  let direction ← sortDirection
  pure (Text.joined " " ([item] ++ direction ++ (← deeper.fill?).toList))

def Deeper.sortItems (deeper : Deeper) : Parser (List String) := listOf deeper.sortItem

/-- The bound of a window frame; a quoted bound is an interval. -/
def Deeper.frameBound (deeper : Deeper) (interval : Parser Expr) : Parser String := do
  if ← keywords? ["CURRENT", "ROW"] then pure "CURRENT ROW"
  else
    let distance ← if ← keyword? "UNBOUNDED" then pure "UNBOUNDED"
      else
        match ← peek? with
        | some (.literal .plain _) => pure (← interval).text
        | _ => deeper.exprText
    if ← keyword? "PRECEDING" then pure (distance ++ " PRECEDING")
    else if ← keyword? "FOLLOWING" then pure (distance ++ " FOLLOWING")
    else expected "PRECEDING or FOLLOWING"

def Deeper.frame (deeper : Deeper) (interval : Parser Expr) : Parser Frame := do
  match ← oneOf? ["ROWS", "RANGE", "GROUPS"] with
  | none => expected "ROWS, RANGE, GROUPS"
  | some units =>
    if ← keyword? "BETWEEN" then
      let start ← deeper.frameBound interval
      keyword "AND"
      let finish ← deeper.frameBound interval
      pure { units := units, start := start, finish? := some finish }
    else
      let start ← deeper.frameBound interval
      pure { units := units, start := start }

/-- A window specification behind its opening parenthesis. An unquoted keyword is not the name of
a window here. -/
def Deeper.windowSpec (deeper : Deeper) (interval : Parser Expr) : Parser Window := do
  let name? ← match ← peek? with
    | some (.word _ _ key) => if Keyword.isKeyword key then pure none else some <$> name
    | _ => pure none
  let partitionBy ← if ← keywords? ["PARTITION", "BY"] then listOf deeper.expr else pure []
  let orderBy ← if ← keywords? ["ORDER", "BY"] then deeper.sortItems else pure []
  if ← symbol? ")" then pure (.spec name? partitionBy orderBy none)
  else
    let frame ← deeper.frame interval
    symbol ")"
    pure (.spec name? partitionBy orderBy (some frame))

def Deeper.window (deeper : Deeper) (interval : Parser Expr) : Parser Window := do
  if ← keyword? "OVER" then
    if ← symbol? "(" then deeper.windowSpec interval else .named <$> name
  else pure .absent

/-! ## Arguments -/

/-- An expression, a star, or a dotted name that ends in a star. The latter two are given by their
text. A point needs a name or a star behind it. -/
def Deeper.starred (deeper : Deeper) : Parser (Expr ⊕ String) := do
  let start ← get
  match start.tokens with
  | ⟨.symbol "*", _, _⟩ :: _ => advance *> pure (.inr "*")
  | ⟨first, _, _⟩ :: ⟨.symbol ".", _, _⟩ :: _ =>
    match nameOf? first with
    | none => .inl <$> deeper.expr
    | some qualifier => do
      advance
      let (parts, star) ← extend (fun (parts, star) => do
        if star then pure none
        else if ← symbol? "." then
          if ← symbol? "*" then pure (some (parts, true))
          else pure (some ((← nameAs "an identifier or a '*' after '.'") :: parts, false))
        else pure none) ([qualifier], false)
      if star then pure (.inr (dottedText parts.reverse ++ ".*"))
      else set start *> .inl <$> deeper.expr
  | _ => .inl <$> deeper.expr

/-- The text of what the starred reader yields. -/
def starredText : Expr ⊕ String → String
  | .inl e => e.text
  | .inr spelling => spelling

/-- The sign between the name and the value of a named argument. -/
def Parser.argumentSign : Parser String := do
  if ← keyword? "VALUE" then pure "VALUE"
  else if ← symbol? "=>" then pure "=>"
  else if ← symbol? ":=" then pure ":="
  else expected "argument operator"

def Deeper.argument (deeper : Deeper) : Parser Argument := do
  let named? ← attempt do
    let label ← name
    let sign ← argumentSign
    let content ← deeper.starred
    pure (label.text ++ " " ++ sign ++ " " ++ starredText content)
  match named? with
  | some spelling => pure (.other spelling)
  | none =>
    match ← deeper.starred with
    | .inl e => pure (.expr e)
    | .inr spelling => pure (.other spelling)

def Parser.nullTreatment? : Parser (Option String) := do
  match ← oneOf? ["RESPECT", "IGNORE"] with
  | some word => do
    keyword "NULLS"
    pure (some (word ++ " NULLS"))
  | none => pure none

/-- An argument list: DISTINCT or ALL, the arguments, and the clauses behind them. -/
structure ArgumentList where
  treatment? : Option String := none
  arguments : List Argument := []
  clauses : List String := []
  /-- The clauses say how nulls are treated. -/
  treatsNulls : Bool := false

/-- The text of an argument list with its parentheses. -/
def ArgumentList.text (l : ArgumentList) : String :=
  let head : CallHead := { name := [], treatment? := l.treatment?, clauses := l.clauses }
  "(" ++ head.argumentText (l.arguments.map Argument.text) ++ ")"

/-- What happens when an aggregated list gets too long. What fills the place of the rest is a text. -/
def Deeper.overflowClause? (deeper : Deeper) : Parser (Option String) := do
  if ← keywords? ["ON", "OVERFLOW"] then
    if ← keyword? "ERROR" then pure (some "ON OVERFLOW ERROR")
    else
      keyword "TRUNCATE"
      let filler ← match ← peek? with
        | some (.word _ _ "WITH") | some (.word _ _ "WITHOUT") => pure []
        | some (.literal .plain _) | some (.literal .escaped _) | some (.literal .unicode _)
        | some (.literal (.marked "N" _) _) | some (.literal (.marked "X" _) _) =>
          do pure [← deeper.exprText]
        | _ => expected "either filler, WITH, or WITHOUT in LISTAGG"
      match ← oneOf? ["WITH", "WITHOUT"] with
      | none => expected "either WITH or WITHOUT in LISTAGG"
      | some count => do
        keyword "COUNT"
        pure (some (Text.joined " " (["ON OVERFLOW TRUNCATE"] ++ filler ++ [count ++ " COUNT"])))
  else pure none

/-- The clauses that may stand behind arguments and in place of them: whether nulls are kept, and the
type that is returned. -/
def Deeper.documentClauses (deeper : Deeper) : Parser (List String) := do
  let nulls? ← phrase? [["ABSENT", "ON", "NULL"], ["NULL", "ON", "NULL"]]
  let returned? ← clause? ["RETURNING"] (DataType.text deeper)
  pure (nulls?.toList ++ returned?.toList)

/-- An argument list behind its opening parenthesis. -/
def Deeper.argumentList (deeper : Deeper) : Parser ArgumentList := do
  let leading ← deeper.documentClauses
  if ← symbol? ")" then pure { clauses := leading }
  else
    let start ← here
    let all ← keyword? "ALL"
    let distinct ← keyword? "DISTINCT"
    if all ∧ distinct then reject ("Cannot specify both ALL and DISTINCT" ++ start)
    else
      let arguments ← listOf deeper.argument
      let nulls? ← nullTreatment?
      let order? ← clause? ["ORDER", "BY"] (Text.joined ", " <$> deeper.sortItems)
      let limit? ← clause? ["LIMIT"] deeper.exprText
      let bound? ← clause? ["HAVING"] (do
        let side ← oneOf ["MIN", "MAX"]
        pure (side ++ " " ++ (← deeper.exprText)))
      let separator? ← clause? ["SEPARATOR"] value
      let overflow? ← deeper.overflowClause?
      let trailing ← deeper.documentClauses
      symbol ")"
      pure {
        treatment? := if all then some "ALL" else if distinct then some "DISTINCT" else none
        arguments := arguments
        clauses := leading ++ [nulls?, order?, limit?, bound?, separator?, overflow?].filterMap id ++
          trailing
        treatsNulls := nulls?.isSome }

/-! ## Calls -/

/-- The condition behind a call. The word FILTER is passed even where no condition follows. -/
def Deeper.filterClause (deeper : Deeper) : Parser (Option String) := do
  if ← keyword? "FILTER" then
    if ← symbol? "(" then
      if ← keyword? "WHERE" then
        let condition ← deeper.exprText
        symbol ")"
        pure (some condition)
      else pure none
    else pure none
  else pure none

/-- A call from its opening parenthesis on. -/
def Deeper.call (deeper : Deeper) (interval : Parser Expr) (function : List Ident) : Parser Expr := do
  symbol "("
  let first ← deeper.argumentList
  let second? ← if ← symbol? "(" then some <$> deeper.argumentList else pure none
  let arguments := second?.getD first
  let withinGroup ← if ← keywords? ["WITHIN", "GROUP"] then
      parenthesized (keywords ["ORDER", "BY"] *> deeper.sortItems)
    else pure []
  let filter? ← deeper.filterClause
  let treatment? ← if arguments.treatsNulls then pure none else nullTreatment?
  let window ← deeper.window interval
  let head : CallHead := {
    name := function
    parameters? := second?.map fun _ => first.text
    treatment? := arguments.treatment?
    clauses := arguments.clauses
    withinGroup := withinGroup
    filter? := filter?
    nullTreatment? := treatment? }
  pure (.call head arguments.arguments window)

end DialectConversion.Sql
