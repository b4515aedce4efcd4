import DialectConversion.Conversion.Document
import DialectConversion.Lowering
import DialectConversion.Sql.Reading

/-! Conversion of SQL scripts: their text is read, lowered into a tree of the source vocabulary and
converted. -/
namespace DialectConversion
set_option autoImplicit false

/-- Why a script was not converted. -/
inductive ScriptError where
  | parse (e : Sql.ParseError)
  | registry (e : RegistryError)
  | conversion (e : ConversionError)

def ScriptError.message : ScriptError → String
  | parse e => e.display
  | registry e => e.message
  | conversion e => e.message

namespace Conversion

def convertStatements (cv : Conversion) (statements : List Sql.Statement) :
    Except ConversionError ConvertedDocument :=
  cv.convertDocument (Sql.scriptNode statements)

def convertScript (cv : Conversion) (sql : String) : Except ScriptError ConvertedDocument :=
  match Sql.readStatements sql with
  | .error e => .error (.parse e)
  | .ok statements => (cv.convertStatements statements).mapError .conversion

end Conversion
end DialectConversion
