import DialectConversion.Name.Segments
import DialectConversion.Text.UpperCase
import DialectConversion.Tree.Node
import DialectConversion.Vocabulary.Mapping

/-! Identifiers and qualified names. An unquoted identifier folds to upper case; a quoted one keeps
its spelling. An identifier node of the source dialect carries a name in its name parts where it has
any, otherwise dotted in its own text. -/
namespace DialectConversion
set_option autoImplicit false

/-- One part of a name as it was written, and whether it was quoted. -/
structure Identifier where
  text : String
  quoted : Bool := false
  deriving DecidableEq

namespace Identifier

/-- The spelling under which an identifier is compared. -/
def canonical (i : Identifier) : String := if i.quoted then i.text else Text.upper i.text

/-- The identifier written as a segment of a dotted name. -/
def ofSegment (segment : String) : Identifier :=
  if Name.isQuoted segment then ⟨Name.unquote segment, true⟩ else ⟨Text.trim segment, false⟩

end Identifier

/-- A name of one or more parts. -/
structure QualifiedName where
  parts : List Identifier
  nonempty : parts ≠ []
  deriving DecidableEq

namespace QualifiedName

/-- The name with the given parts, if there are any. -/
def ofParts? (parts : List Identifier) : Option QualifiedName :=
  if h : parts = [] then none else some ⟨parts, h⟩

/-- The only part of a name that has one part. -/
def single? (n : QualifiedName) : Option Identifier :=
  match n.parts with
  | [only] => some only
  | _ => none

def last (n : QualifiedName) : Identifier := n.parts.getLast n.nonempty

/-- The canonical spellings of the parts, joined by dots. -/
def canonical (n : QualifiedName) : String := Text.joined "." (n.parts.map Identifier.canonical)

end QualifiedName

/-! ## Names of nodes -/

namespace Node

def nameParts (n : Node) : List Node :=
  n.children.filter fun c => c.kind = SourceKind.namePart.label

/-- The identifier that a name part stands for; a part without a text stands for none. -/
def partIdentifier? (part : Node) : Option Identifier :=
  (part.attribute? AttributeName.text).map fun text =>
    ⟨text, part.attribute? AttributeName.quoted = some "true"⟩

/-- The name of an identifier node. A single part without a text leaves the node without a name. -/
def qualifiedName? (n : Node) : Option QualifiedName :=
  match n.nameParts with
  | [] => (n.attribute? AttributeName.text).bind fun text =>
      QualifiedName.ofParts? ((Name.splitSegments text).map Identifier.ofSegment)
  | parts => (parts.mapM partIdentifier?).bind QualifiedName.ofParts?

end Node
end DialectConversion
