import DialectConversion.NameMap

/-! Syntax trees. A node has a kind, drawn from the vocabulary of the dialect the tree is written
in, named text attributes and an ordered list of children. Trees of both dialects have this one
form; a tree may also hold kinds that neither vocabulary knows. -/
namespace DialectConversion
set_option autoImplicit false

/-- The named text values of a node. -/
abbrev Attributes := NameMap String

/-- A node of a syntax tree. -/
inductive Node where
  | mk (kind : String) (attributes : Attributes) (children : List Node)

namespace Node

def kind : Node → String
  | mk k _ _ => k

def attributes : Node → Attributes
  | mk _ a _ => a

def children : Node → List Node
  | mk _ _ cs => cs

@[simp] theorem kind_mk (k : String) (a : Attributes) (cs : List Node) : (mk k a cs).kind = k := rfl
@[simp] theorem attributes_mk (k : String) (a : Attributes) (cs : List Node) :
    (mk k a cs).attributes = a := rfl
@[simp] theorem children_mk (k : String) (a : Attributes) (cs : List Node) :
    (mk k a cs).children = cs := rfl

mutual
/-- Equality of nodes is decided part by part. -/
def decEq : (a b : Node) → Decidable (a = b)
  | mk k a cs, mk k' a' cs' =>
    if hk : k = k' then
      if ha : a = a' then
        match decEqList cs cs' with
        | isTrue hc => isTrue (by rw [hk, ha, hc])
        | isFalse hc => isFalse (by intro h; cases h; exact hc rfl)
      else isFalse (by intro h; cases h; exact ha rfl)
    else isFalse (by intro h; cases h; exact hk rfl)

def decEqList : (as bs : List Node) → Decidable (as = bs)
  | [], [] => isTrue rfl
  | [], _ :: _ => isFalse nofun
  | _ :: _, [] => isFalse nofun
  | a :: as, b :: bs =>
    match decEq a b, decEqList as bs with
    | isTrue h, isTrue hs => isTrue (by rw [h, hs])
    | isFalse h, _ => isFalse (by intro e; cases e; exact h rfl)
    | _, isFalse hs => isFalse (by intro e; cases e; exact hs rfl)
end

instance : DecidableEq Node := decEq

/-! ## Building -/

/-- A node without attributes and children. -/
def leaf (kind : String) : Node := mk kind {} []

instance : Inhabited Node := ⟨leaf ""⟩

/-- A node without attributes. -/
def branch (kind : String) (children : List Node) : Node := mk kind {} children

/-- The node with one more attribute, or with a new value for it. -/
def withAttribute (n : Node) (name value : String) : Node :=
  mk n.kind (n.attributes.set name value) n.children

/-- The node with one more child, after the others. -/
def withChild (n : Node) (child : Node) : Node :=
  mk n.kind n.attributes (n.children ++ [child])

/-- The node under the given number of nodes of one kind, each the only child of the next. -/
def nestedUnder (n : Node) (kind : String) : Nat → Node
  | 0 => n
  | times + 1 => (branch kind [n]).nestedUnder kind times

/-! ## Reading -/

def attribute? (n : Node) (name : String) : Option String := n.attributes.get? name

/-- The value of an attribute, empty where it is absent. -/
def attributeText (n : Node) (name : String) : String := (n.attribute? name).getD ""

def firstChild? (n : Node) : Option Node := n.children.head?

def lastChild? (n : Node) : Option Node := n.children.getLast?

mutual
/-- The first node of a kind below a node, in the order in which the tree is written: each child
comes before what is below it, and all below a child before the next child. -/
def findDescendant? (kind : String) : Node → Option Node
  | mk _ _ cs => findAmong? kind cs

/-- The first node of a kind among the given nodes and what is below them. -/
def findAmong? (kind : String) : List Node → Option Node
  | [] => none
  | c :: rest =>
    if c.kind = kind then some c
    else match findDescendant? kind c with
      | some found => some found
      | none => findAmong? kind rest
end

/-! ## Growing a tree in place -/

/-- Replaces the last child by what the function makes of it. -/
def mapLastChild (f : Node → Node) (n : Node) : Node :=
  match n.lastChild? with
  | some child => mk n.kind n.attributes (n.children.dropLast ++ [f child])
  | none => n

/-- Adds a chain of nodes below a node, each the last child of the one before, and applies the
function to the node the chain ends at, which is the node itself when the chain is empty. -/
def growChain (f : Node → Node) : List String → Node → Node
  | [], n => f n
  | k :: rest, n => n.withChild (growChain f rest (leaf k))

/-! ## Outlines

A line for each node, in the order of the tree, indented by two spaces a level, with the node's kind and its
attributes as name=value. -/

/-- The attributes of an outline line, each after a space. -/
def outlineAttributes : List (String × String) → String
  | [] => ""
  | (name, value) :: rest => " " ++ name ++ "=" ++ value ++ outlineAttributes rest

def outlineLine (n : Node) : String := n.kind ++ outlineAttributes n.attributes.entries

/-- A line break followed by the indentation of a level. -/
def outlineBreak (level : Nat) : String := "\n" ++ String.ofList (List.replicate (2 * level) ' ')

mutual
/-- The lines of a node and all below it, the first one at the given level. -/
def outlineAt (level : Nat) : Node → String
  | mk k a cs => (mk k a cs).outlineLine ++ outlineBelow (level + 1) cs

/-- The lines of the given nodes, each set off by a line break and its indentation. -/
def outlineBelow (level : Nat) : List Node → String
  | [] => ""
  | c :: rest => outlineBreak level ++ outlineAt level c ++ outlineBelow level rest
end

def outline (n : Node) : String := outlineAt 0 n

end Node
end DialectConversion
