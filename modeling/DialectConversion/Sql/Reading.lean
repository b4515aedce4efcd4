import DialectConversion.Sql.Grammar.Statement
import DialectConversion.Sql.Token.Scan

/-! Reading of SQL text: scripts of statements, and single expressions. Statements, queries and
operands may be nested in each other up to a limit. -/
namespace DialectConversion.Sql
set_option autoImplicit false
open Sql.Parser

/-- How deep statements, queries and operands may be nested. -/
def nestingLimit : Nat := 50

/-- The readers when so many levels of nesting are left. -/
def Deeper.within : Nat → Deeper
  | 0 =>
    { operand := fun _ => throw .nesting
      query := throw .nesting
      statement := throw .nesting
      column := throw .nesting }
  | levels + 1 =>
    let deeper := within levels
    { operand := Grammar.Expression.operand deeper
      query := Grammar.Query.read deeper (Grammar.Change.read? deeper)
      statement := Grammar.Statement.read deeper
      column := Grammar.Column.read deeper }

/-- The readers at the outermost level. -/
def Deeper.outermost : Deeper := .within nestingLimit

/-- Statements with semicolons between them. The word END behind a statement ends the script. -/
def script : Parser (List Statement) := do
  let (reversed, _) ← extend (fun (statements, ended) => do
    if ← symbol? ";" then pure (some (statements, false))
    else if (← peek?).isNone then pure none
    else if ended then
      if (← key) = "END" then pure none else expected "end of statement"
    else pure (some ((← Deeper.outermost.statement) :: statements, true))) ([], false)
  pure reversed.reverse

def loneExpression : Parser Expr := do
  let e ← Deeper.outermost.expr
  if (← peek?).isNone then pure e else expected "EOF"

/-- What a parser makes of a text. -/
def readText {α : Type} (p : Parser α) (sql : String) : Except ParseError α :=
  let result := do
    let tokens ← Token.ofText sql
    p.run' { tokens := tokens }
  result.mapError ParseError.ofRejection

/-- The statements of a script. -/
def readStatements (sql : String) : Except ParseError (List Statement) := readText script sql

def readExpression (sql : String) : Except ParseError Expr := readText loneExpression sql

end DialectConversion.Sql
