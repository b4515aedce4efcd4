import DialectConversion.Text.Basic

/-! Syntax of SQL statements and their canonical text. Names, literals, binary operators, grouping,
calls, window specifications and the clauses of a single select are held as structure. All other
syntax is held as its canonical text: keywords in upper case and single blanks between the parts. -/
namespace DialectConversion.Sql
set_option autoImplicit false
open Text

/-- A name as written, with its quotes if it has any. -/
structure Ident where
  value : String
  quote? : Option Char := none
  deriving DecidableEq

namespace Ident

/-- The canonical text of a name. A bracket closes with its own counterpart, and nothing is doubled between
brackets. -/
def text (i : Ident) : String :=
  match i.quote? with
  | none => i.value
  | some '[' => "[" ++ i.value ++ "]"
  | some q => betweenQuotes q i.value

end Ident

/-- The canonical text of a dotted name. -/
def dottedText (parts : List Ident) : String := joined "." (parts.map Ident.text)

/-- What a call has besides its arguments and its window. -/
structure CallHead where
  name : List Ident
  /-- The call stands between braces with the letters fn in front. -/
  braces : Bool := false
  /-- An argument list in front of the arguments proper. -/
  parameters? : Option String := none
  /-- DISTINCT or ALL in front of the arguments. -/
  treatment? : Option String := none
  /-- Clauses behind the arguments, inside the parentheses. -/
  clauses : List String := []
  withinGroup : List String := []
  filter? : Option String := none
  /-- IGNORE NULLS or RESPECT NULLS behind the parentheses. -/
  nullTreatment? : Option String := none
  deriving DecidableEq

/-- The part of a window that a call looks at: a unit, where it starts and, if that is said, where it
ends. -/
structure Frame where
  units : String
  start : String
  finish? : Option String := none
  deriving DecidableEq

def Frame.text (f : Frame) : String :=
  match f.finish? with
  | some finish => f.units ++ " BETWEEN " ++ f.start ++ " AND " ++ finish
  | none => f.units ++ " " ++ f.start

mutual
inductive Expr where
  | name (parts : List Ident)
  /-- A literal or a placeholder, in its canonical text. -/
  | value (spelling : String)
  | binary (left : Expr) (operator : String) (right : Expr)
  /-- An expression in parentheses. -/
  | nested (inner : Expr)
  | call (head : CallHead) (arguments : List Argument) (window : Window)
  /-- A query in parentheses. -/
  | subquery (query : String)
  /-- Any other expression, in its canonical text. -/
  | other (spelling : String)

/-- An argument of a call. -/
inductive Argument where
  | expr (e : Expr)
  /-- A star or a named argument, in its canonical text. -/
  | other (spelling : String)

/-- The window of a call. -/
inductive Window where
  | absent
  /-- OVER and the name of a window. -/
  | named (name : Ident)
  /-- OVER and a specification in parentheses. -/
  | spec (name? : Option Ident) (partitionBy : List Expr) (orderBy : List String) (frame? : Option Frame)
end

instance : Inhabited Expr := ⟨.other ""⟩

/-! ## Canonical text of expressions -/

/-- A clause in a list of clauses, absent when it has no items. -/
def listClause (keyword : String) (items : List String) : List String :=
  if items.isEmpty then [] else [keyword ++ " " ++ joined ", " items]

/-- A clause in a list of clauses, absent when it has no content. -/
def optionClause (keyword : String) (content? : Option String) : List String :=
  match content? with
  | some content => [keyword ++ " " ++ content]
  | none => []

/-- The text of a window specification between its parentheses. -/
def windowText (name? : Option Ident) (partitionBy orderBy : List String) (frame? : Option Frame) : String :=
  joined " " ((name?.map Ident.text).toList ++ listClause "PARTITION BY" partitionBy ++
    listClause "ORDER BY" orderBy ++ (frame?.map Frame.text).toList)

namespace CallHead

/-- The text between the parentheses of a call. -/
def argumentText (h : CallHead) (arguments : List String) : String :=
  (match h.treatment? with
    | some treatment => treatment ++ " "
    | none => "") ++
    joined ", " arguments ++
    (if h.clauses.isEmpty then ""
      else (if arguments.isEmpty then "" else " ") ++ joined " " h.clauses)

/-- The text of a call up to its window. -/
def callText (h : CallHead) (arguments : List String) : String :=
  joined " " ([dottedText h.name ++ h.parameters?.getD "" ++ "(" ++ h.argumentText arguments ++ ")"] ++
    (if h.withinGroup.isEmpty then []
      else ["WITHIN GROUP (ORDER BY " ++ joined ", " h.withinGroup ++ ")"]) ++
    (match h.filter? with
      | some condition => ["FILTER (WHERE " ++ condition ++ ")"]
      | none => []) ++
    h.nullTreatment?.toList)

/-- The text of a call, given the texts of its arguments and of its window. -/
def text (h : CallHead) (arguments : List String) (window? : Option String) : String :=
  let whole := h.callText arguments ++
    (match window? with
      | some window => " OVER " ++ window
      | none => "")
  if h.braces then "\x7bfn " ++ whole ++ "\x7d" else whole

end CallHead

mutual
def Expr.text : Expr → String
  | .name parts => dottedText parts
  | .value spelling => spelling
  | .binary left operator right => left.text ++ " " ++ operator ++ " " ++ right.text
  | .nested inner => "(" ++ inner.text ++ ")"
  | .call head arguments window => head.text (argumentTexts arguments) window.text?
  | .subquery query => "(" ++ query ++ ")"
  | .other spelling => spelling

def Expr.texts : List Expr → List String
  | [] => []
  | e :: rest => e.text :: Expr.texts rest

def Argument.text : Argument → String
  | .expr e => e.text
  | .other spelling => spelling

def argumentTexts : List Argument → List String
  | [] => []
  | a :: rest => a.text :: argumentTexts rest

/-- The canonical text of a window, none where there is no window. -/
def Window.text? : Window → Option String
  | .absent => none
  | .named name => some name.text
  | .spec name? partitionBy orderBy frame? =>
    some ("(" ++ windowText name? (Expr.texts partitionBy) orderBy frame? ++ ")")
end

/-! ## Statements -/

inductive SelectItem where
  | expr (e : Expr)
  | aliased (e : Expr) (aliasName : Ident)
  /-- A star with or without a qualifier, in its canonical text. -/
  | other (spelling : String)

def SelectItem.text : SelectItem → String
  | .expr e => e.text
  | .aliased e aliasName => e.text ++ " AS " ++ aliasName.text
  | .other spelling => spelling

/-- Where the FROM clause of a select stands. -/
inductive SelectOrder where
  /-- Behind the select list. -/
  | listFirst
  /-- In front of the select list. -/
  | tablesFirst
  /-- In front, and there is no select list. -/
  | tablesOnly
  deriving DecidableEq

/-- What the rows of a select are made into. -/
inductive RowForm where
  | structs
  | values
  | distinctStructs
  | distinctValues
  deriving DecidableEq

def RowForm.text : RowForm → String
  | structs => "AS STRUCT"
  | values => "AS VALUE"
  | distinctStructs => "DISTINCT AS STRUCT"
  | distinctValues => "DISTINCT AS VALUE"

/-- A select without the clauses of the query around it. Clauses whose parts are not looked into
are held as the texts of their items. -/
structure Select where
  order : SelectOrder := .listFirst
  rowForm? : Option RowForm := none
  distinct? : Option String := none
  top? : Option String := none
  projection : List SelectItem := []
  /-- The columns left out of the whole list. -/
  exclude? : Option String := none
  into? : Option String := none
  tables : List String := []
  lateralViews : List String := []
  prewhere? : Option String := none
  selection? : Option Expr := none
  groupBy? : Option String := none
  clusterBy : List String := []
  distributeBy : List String := []
  sortBy : List String := []
  having? : Option String := none
  windows : List String := []
  qualify? : Option String := none
  /-- The named windows stand in front of the QUALIFY clause. -/
  windowsFirst : Bool := false
  /-- START WITH and CONNECT BY, with their keywords. -/
  connectBy? : Option String := none

namespace Select

/-- The canonical text of a select: its clauses with single blanks between them. -/
def text (s : Select) : String :=
  let tables := joined ", " s.tables
  let windows := listClause "WINDOW" s.windows
  let qualify := optionClause "QUALIFY" s.qualify?
  joined " " <|
    (match s.order with
      | .listFirst => ["SELECT"]
      | .tablesFirst => ["FROM " ++ tables ++ " SELECT"]
      | .tablesOnly => ["FROM " ++ tables]) ++
    (s.rowForm?.map RowForm.text).toList ++ s.distinct?.toList ++ s.top?.toList ++
    (if s.projection.isEmpty then [] else [joined ", " (s.projection.map SelectItem.text)]) ++
    optionClause "EXCLUDE" s.exclude? ++ s.into?.toList ++
    (if s.order = .listFirst then listClause "FROM" s.tables else []) ++
    s.lateralViews ++ optionClause "PREWHERE" s.prewhere? ++
    optionClause "WHERE" (s.selection?.map Expr.text) ++ s.groupBy?.toList ++
    listClause "CLUSTER BY" s.clusterBy ++ listClause "DISTRIBUTE BY" s.distributeBy ++
    listClause "SORT BY" s.sortBy ++ optionClause "HAVING" s.having? ++
    (if s.windowsFirst then windows ++ qualify else qualify ++ windows) ++ s.connectBy?.toList

end Select

inductive Body where
  | select (s : Select)
  /-- A set operation, a query in parentheses or a list of rows, in its canonical text. -/
  | other (spelling : String)

def Body.text : Body → String
  | .select s => s.text
  | .other spelling => spelling

/-- A query: its common table expressions, its body and the clauses behind the body. -/
structure Query where
  with? : Option String := none
  body : Body
  clauses : List String := []

namespace Query

def text (q : Query) : String := joined " " (q.with?.toList ++ [q.body.text] ++ q.clauses)

end Query

inductive Statement where
  | query (q : Query)
  /-- Any other statement, in its canonical text. -/
  | other (spelling : String)

def Statement.text : Statement → String
  | .query q => q.text
  | .other spelling => spelling

end DialectConversion.Sql
