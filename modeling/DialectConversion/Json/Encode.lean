import DialectConversion.Conversion.Basic
import DialectConversion.Json.Value
import DialectConversion.Tree.Node

/-! JSON forms of trees, findings and settings. A member whose content is empty or absent is left
out. -/
namespace DialectConversion
set_option autoImplicit false
open Json

/-- A member that is written only when its list is not empty. -/
def Json.memberUnlessEmpty {α : Type} (name : String) (content : List α) (value : Value) :
    List (String × Value) :=
  if content.isEmpty then [] else [(name, value)]

mutual
/-- The JSON form of a tree: its kind, then its attributes, then its children. -/
def Node.toJson : Node → Value
  | .mk k a cs => .object (("kind", .string k) ::
      (memberUnlessEmpty "attributes" a.entries
          (.object (a.entries.map fun e => (e.1, Value.string e.2))) ++
        memberUnlessEmpty "children" cs (.array (Node.listToJson cs))))

def Node.listToJson : List Node → List Value
  | [] => []
  | c :: rest => Node.toJson c :: Node.listToJson rest
end

def Diagnostic.toJson (d : Diagnostic) : Value :=
  .object ([("severity", .string d.severity.word), ("code", .string d.code),
      ("message", .string d.message)] ++
    match d.nodeKind? with
    | some kind => [("nodeKind", .string kind)]
    | none => [])

def Config.toJson (c : Config) : Value :=
  .object (memberUnlessEmpty "disabledConverters" c.disabledConverters
      (.array (c.disabledConverters.map Value.string)) ++ [("maxDepth", .number (toString c.maxDepth))])

end DialectConversion
