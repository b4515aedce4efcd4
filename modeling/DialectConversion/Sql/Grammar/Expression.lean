import DialectConversion.Sql.Grammar.SpecialForm

/-! Expressions: operands, the accesses to their parts, and the operators between them. A word with a
special form is read in that form first, and as a plain name or call where the form does not fit. -/
namespace DialectConversion.Sql.Grammar.Expression
set_option autoImplicit false
open Sql.Parser

def atQuery : Parser Bool := do pure (["SELECT", "WITH"].contains (← key))

/-! ## Operands -/

/-- A name, or a call where a parenthesis follows. A name with an underscore in front of text says
how the text is encoded. -/
def plainWord (deeper : Deeper) (primary : Parser Expr) (word : Ident) : Parser Expr := do
  if ← atSymbol "(" then deeper.call (SpecialForm.interval primary) [word]
  else
    match word.value.startsWith "_", ← peek? with
    | true, some (.literal .plain _) | true, some (.literal (.marked "X" _) _) =>
      pure (.other (word.text ++ " " ++ (← value)))
    | _, _ => pure (.name [word])

/-- The literal behind the name of a type, none where this is not what comes next. -/
def typedValue? (deeper : Deeper) (primary : Parser Expr) : Parser (Option Expr) := attempt do
  let type ← DataType.typeName deeper
  if type.overrun then reject ""
  else
    match type.kind with
    | .custom => reject ""
    | .interval => SpecialForm.interval primary
    | .known => pure (.other (type.text ++ " " ++ (← value)))

/-- A word: its special form, or a plain name or call. Where a special form does not fit, the word
is read as plain; if that fails too, or if the word is never a name, the first failure counts, and nothing
behind the word counts as passed. -/
def wordForm (deeper : Deeper) (primary : Parser Expr) (word : Ident) (key : String) :
    Parser Expr := fun c =>
  match SpecialForm.read? deeper primary key word.value c with
  | .ok (some e, c') => .ok (e, c')
  | .ok (none, c') => plainWord deeper primary word c'
  | .error e =>
    let e := e.leaving c.tokens.length
    if Keyword.neverNames.contains key then .error e
    else
      match plainWord deeper primary word c with
      | .ok result => .ok result
      | .error _ => .error e

/-- A call behind the letters fn, a date or time behind its letters, or a list of keys and values: what
stands between braces. -/
def braced (deeper : Deeper) (primary : Parser Expr) : Parser Expr := do
  let start ← get
  symbol "\x7b"
  let call? ← attempt do
    keyword "FN"
    let function ← dottedName
    deeper.call (SpecialForm.interval primary) function
  match call? with
  | some (.call head arguments window) =>
    symbol "\x7d"
    pure (.call { head with braces := true } arguments window)
  | _ =>
    let stamp? ← attempt do
      match ← peek? with
      | some (.word text none _) =>
        if ["d", "t", "ts"].contains text then
          advance
          pure (.other ("\x7b" ++ text ++ " " ++ (← value) ++ "\x7d"))
        else reject ""
      | _ => reject ""
    match stamp? with
    | some e => symbol "\x7d" *> pure e
    | none =>
      set start
      .other <$> SpecialForm.entries deeper do pure (← name).text

/-- What stands in parentheses: a query, an expression, or several expressions. -/
def grouped (deeper : Deeper) : Parser Expr := do
  let e ← if ← atQuery then .subquery <$> deeper.queryText
    else
      match ← listOf deeper.expr with
      | [e] => pure (.nested e)
      | es => pure (.other (inParentheses (Expr.texts es)))
  symbol ")"
  pure e

/-- An operand that is no literal with a type in front. -/
def untyped (deeper : Deeper) (primary : Parser Expr) : Parser Expr := do
  match ← peek? with
  | some (.word text quote? key) => advance *> wordForm deeper primary ⟨text, quote?⟩ key
  | some (.symbol spelling) =>
    match spelling with
    | "-" | "+" => do
      advance
      pure (.other (spelling ++ (← deeper.operand Precedence.product).text))
    | "(" => advance *> grouped deeper
    | "[" => advance *> SpecialForm.arrayForm deeper ""
    | "\x7b" => braced deeper primary
    | ":" | "@" => .value <$> value
    | _ => expectedPast "an expression"
  | some _ => .value <$> value
  | none => expected "an expression"

/-- An operand without operators and accesses behind it, but with its collation. In the definition of
a column a collation belongs to the column. An interval holds such an operand without being a level
deeper; the number of tokens bounds how often. -/
def primaryWithin (deeper : Deeper) : Nat → Parser Expr
  | 0 => expected "an expression"
  | steps + 1 => do
    let primary := primaryWithin deeper steps
    match ← typedValue? deeper primary with
    | some e => pure e
    | none =>
      let e ← untyped deeper primary
      if (← get).mode = .columnDefinition then pure e
      else
        match ← clause? ["COLLATE"] dottedNameText with
        | some collation => pure (.other (e.text ++ " " ++ collation))
        | none => pure e

/-- An operand without operators and accesses behind it. -/
def primary (deeper : Deeper) : Parser Expr := do
  primaryWithin deeper ((← get).tokens.length + 1)

def interval (deeper : Deeper) : Parser Expr := SpecialForm.interval (primary deeper)

/-! ## Accesses behind an operand -/

/-- A subscript or a slice behind its opening bracket. A second colon without a stride behind it is
dropped. -/
def subscript (deeper : Deeper) : Parser String := do
  let low? ← if ← symbol? ":" then pure none else some <$> deeper.exprText
  if ← symbol? "]" then pure ("[" ++ low?.getD ":" ++ "]")
  else
    if low?.isSome then symbol ":"
    let slice := "[" ++ low?.getD "" ++ ":"
    if ← symbol? "]" then pure (slice ++ "]")
    else
      let high ← deeper.exprText
      if ← symbol? "]" then pure (slice ++ high ++ "]")
      else
        symbol ":"
        if ← symbol? "]" then pure (slice ++ high ++ "]")
        else
          let stride ← deeper.exprText
          symbol "]"
          pure (slice ++ high ++ ":" ++ stride ++ "]")

/-- One step from an operand to a part of it. -/
inductive Access where
  | part (e : Expr)
  | subscript (text : String)

def Access.text : Access → String
  | part e => "." ++ e.text
  | subscript text => text

/-- The names that the accesses consist of, none if there are others among them. -/
def namesOf? : List Access → Option (List Ident)
  | [] => some []
  | .part (.name parts) :: rest => (namesOf? rest).map fun more => parts ++ more
  | _ => none

/-- An operand with the accesses behind it. Names alone make a dotted name, and names in front of a
call are part of the name of its function. -/
def accessed (root : Expr) (accesses : List Access) : Expr :=
  let plain : Expr := .other (root.text ++ String.join (accesses.map Access.text))
  match root, accesses.getLast? with
  | _, none => root
  | .name first, some (.part (.name last)) =>
    match namesOf? accesses.dropLast with
    | some more => .name (first ++ more ++ last)
    | none => plain
  | .name first, some (.part (.call head arguments window)) =>
    match namesOf? accesses.dropLast with
    | some more => .call { head with name := first ++ more ++ head.name } arguments window
    | none => plain
  | _, _ => plain

/-- The accesses behind an operand. A point in front of a star is left where it is. -/
def accesses (deeper : Deeper) : Parser (List Access) := do
  let reversed ← extend (fun found => do
    if (← atSymbol ".") && (← ahead? 1) != some (.symbol "*") then
      advance
      match ← peek? with
      | some (.literal .plain content) =>
        advance *> pure (some (.part (.name [⟨content, some '\''⟩]) :: found))
      | _ => pure (some (.part (← deeper.operand Precedence.point) :: found))
    else if ← symbol? "[" then pure (some (.subscript (← subscript deeper) :: found))
    else pure none) []
  pure reversed.reverse

/-! ## Whole expressions -/

/-- An expression whose operators bind more strongly than given. -/
def operand (deeper : Deeper) (precedence : Nat) : Parser Expr := do
  let root ← primary deeper
  let first := accessed root (← accesses deeper)
  extend (fun left => do
    let next ← Operator.nextPrecedence
    if next ≤ precedence ∨ (← atSymbol ".") then pure none
    else some <$> Operator.infixed deeper left next) first

end DialectConversion.Sql.Grammar.Expression
