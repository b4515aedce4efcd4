import DialectConversion.Conversion.Over
import DialectConversion.Lowering
import DialectConversion.Proofs.Tree.Shape

/-! The grammar of lowered trees. Every node is of a source kind, and an over-expression is always
the call of a name with one list of arguments, next to parameters that hold one window. What lowering
makes of an expression or of a select is a tree of this grammar. -/
namespace DialectConversion
set_option autoImplicit false
open Sql

theorem SourceKind.label_injective {k l : SourceKind} (h : k.label = l.label) : k = l := by
  have hlabel := congrArg SourceKind.ofLabel? h
  rwa [SourceKind.ofLabel?_label, SourceKind.ofLabel?_label, Option.some.injEq] at hlabel

/-! ## Calls and over-expressions -/

/-- The call of a name. -/
def callNode (name : List Ident) (arguments : List Node) : Node :=
  SourceKind.identifier.branchNode (name.map Ident.node ++
    [SourceKind.functionArguments.branchNode [SourceKind.expressionList.branchNode arguments]])

/-- The call of a name over a window. -/
def overNode (name : List Ident) (arguments : List Node) (window : Node) : Node :=
  SourceKind.overExpression.branchNode
    [callNode name arguments, SourceKind.overExpressionParams.branchNode [window]]

namespace Sql

theorem CallHead.node_none (h : CallHead) (arguments : List Node) :
    h.node arguments none = callNode h.name arguments := rfl

theorem CallHead.node_some (h : CallHead) (arguments : List Node) (window : Node) :
    h.node arguments (some window) = overNode h.name arguments window := rfl

theorem Ident.node_eq (i : Ident) :
    i.node = Node.mk SourceKind.namePart.label i.node.attributes [] := by
  unfold Ident.node
  split <;> rfl

@[simp] theorem Ident.kind_node (i : Ident) : i.node.kind = SourceKind.namePart.label := by
  rw [i.node_eq, Node.kind_mk]

@[simp] theorem Ident.children_node (i : Ident) : i.node.children = [] := by
  rw [i.node_eq, Node.children_mk]

/-- The identifier that a part of a name is read as. -/
def Ident.identifier (i : Ident) : Identifier := ⟨i.value, i.quote?.isSome⟩

theorem Ident.partIdentifier?_node (i : Ident) : i.node.partIdentifier? = some i.identifier := by
  obtain ⟨value, quote?⟩ := i
  cases quote? with
  | none => rfl
  | some q => rfl

end Sql

theorem mapM_partIdentifier?_node (name : List Ident) :
    (name.map Ident.node).mapM Node.partIdentifier? = some (name.map Ident.identifier) := by
  induction name with
  | nil => rfl
  | cons i name ih =>
    rw [List.map_cons, List.mapM_cons, Ident.partIdentifier?_node, ih]
    rfl

theorem nameParts_callNode (name : List Ident) (arguments : List Node) :
    (callNode name arguments).nameParts = name.map Ident.node := by
  unfold Node.nameParts callNode
  have hname : ∀ n ∈ name.map Ident.node, decide (n.kind = SourceKind.namePart.label) = true := by
    simp
  rw [SourceKind.branchNode, Node.branch, Node.children_mk, List.filter_append,
    List.filter_eq_self.2 hname]
  exact List.append_nil _

/-- The first list of expressions below a call is its list of arguments. -/
theorem findDescendant?_callNode (name : List Ident) (arguments : List Node) :
    (callNode name arguments).findDescendant? SourceKind.expressionList.label =
      some (SourceKind.expressionList.branchNode arguments) := by
  have hname : ∀ n ∈ name.map Ident.node,
      n.kind ≠ SourceKind.expressionList.label ∧ n.children = [] := by
    intro n hn
    obtain ⟨i, -, rfl⟩ := List.mem_map.1 hn
    rw [Ident.kind_node, Ident.children_node]
    exact ⟨by decide, rfl⟩
  rw [callNode, SourceKind.branchNode, Node.branch, Node.findDescendant?,
    Node.findAmong?_append_of_leaves hname]
  rfl

/-- A call is named by its name parts, and has no name without them. -/
theorem qualifiedName?_callNode (name : List Ident) (arguments : List Node) :
    (callNode name arguments).qualifiedName? =
      QualifiedName.ofParts? (name.map Ident.identifier) := by
  rw [Node.qualifiedName?, nameParts_callNode]
  cases name with
  | nil => rfl
  | cons i rest =>
    exact congrArg (Option.bind · QualifiedName.ofParts?) (mapM_partIdentifier?_node (i :: rest))

/-- A call over a window is rebuilt when its name has a single part that is among the rebuilt
aggregates. -/
theorem matchOver_overNode (name : List Ident) (arguments : List Node) (window : Node) :
    (overNode name arguments window).matchOver =
      match name with
      | [] => .delegate .unnamed
      | [i] =>
        if isRebuiltAggregate i.identifier.canonical then
          .rebuild ⟨i.identifier.canonical, callNode [i] arguments,
            SourceKind.overExpressionParams.branchNode [window]⟩
        else .delegate .unsupported
      | _ :: _ :: _ => .delegate .multiPartName := by
  have hchildren : (overNode name arguments window).children =
    [callNode name arguments, SourceKind.overExpressionParams.branchNode [window]] := rfl
  rw [Node.matchOver, hchildren]
  simp only [qualifiedName?_callNode]
  match name with
  | [] => rfl
  | [i] => rfl
  | i :: j :: rest => rfl

theorem of_matchOver_overNode {name : List Ident} {arguments : List Node} {window : Node}
    {m : MatchedOver} (h : (overNode name arguments window).matchOver = .rebuild m) :
    ∃ i, name = [i] ∧ m = ⟨i.identifier.canonical, callNode [i] arguments,
      SourceKind.overExpressionParams.branchNode [window]⟩ := by
  rw [matchOver_overNode] at h
  match name, h with
  | [i], h =>
    simp only at h
    split at h
    · exact ⟨i, rfl, (OverMatch.rebuild.inj h).symm⟩
    · exact absurd h nofun

theorem height_callNode (name : List Ident) (arguments : List Node) :
    (SourceKind.expressionList.branchNode arguments).height + 2 ≤ (callNode name arguments).height := by
  have h1 : (SourceKind.expressionList.branchNode arguments).height <
      (SourceKind.functionArguments.branchNode [SourceKind.expressionList.branchNode arguments]).height :=
    Node.height_lt_of_mem (List.mem_singleton.2 rfl)
  have h2 : (SourceKind.functionArguments.branchNode
      [SourceKind.expressionList.branchNode arguments]).height < (callNode name arguments).height :=
    Node.height_lt_of_mem (List.mem_append_right _ (List.mem_singleton.2 rfl))
  omega

theorem height_overNode (name : List Ident) (arguments : List Node) (window : Node) :
    (callNode name arguments).height + 1 ≤ (overNode name arguments window).height ∧
      window.height + 2 ≤ (overNode name arguments window).height := by
  have h1 : (callNode name arguments).height < (overNode name arguments window).height :=
    Node.height_lt_of_mem (List.mem_cons_self ..)
  have h2 : window.height < (SourceKind.overExpressionParams.branchNode [window]).height :=
    Node.height_lt_of_mem (List.mem_singleton.2 rfl)
  have h3 : (SourceKind.overExpressionParams.branchNode [window]).height <
      (overNode name arguments window).height :=
    Node.height_lt_of_mem (List.mem_cons_of_mem _ (List.mem_singleton.2 rfl))
  omega

/-! ## The grammar -/

/-- Trees below a statement that is not kept as text. -/
inductive Node.Grammatical : Node → Prop
  /-- A node of any other kind, over grammatical children. -/
  | plain {k : SourceKind} (hover : k ≠ .overExpression) (hraw : k ≠ .rawStatement) (a : Attributes)
      {cs : List Node} (hcs : ∀ c ∈ cs, Grammatical c) : Grammatical (mk k.label a cs)
  /-- The call of a name over a window. The list of arguments is named next to the call that holds
  it, since a call that is rebuilt is taken apart into its list and its window. -/
  | callOver {name : List Ident} {arguments : List Node} {window : Node}
      (hcall : Grammatical (callNode name arguments))
      (hlist : Grammatical (SourceKind.expressionList.branchNode arguments))
      (hwindow : Grammatical window) : Grammatical (overNode name arguments window)

namespace Node.Grammatical

theorem textNode {k : SourceKind} (hover : k ≠ .overExpression) (hraw : k ≠ .rawStatement)
    (text : String) : (k.textNode text).Grammatical :=
  plain hover hraw _ (List.forall_mem_nil _)

theorem branchNode {k : SourceKind} (hover : k ≠ .overExpression) (hraw : k ≠ .rawStatement)
    {cs : List Node} (hcs : ∀ c ∈ cs, Grammatical c) : (k.branchNode cs).Grammatical :=
  plain hover hraw _ hcs

theorem ident_node (i : Ident) : i.node.Grammatical := by
  rw [i.node_eq]
  exact plain (by decide) (by decide) _ (List.forall_mem_nil _)

theorem callNode (name : List Ident) {arguments : List Node}
    (hlist : (SourceKind.expressionList.branchNode arguments).Grammatical) :
    (callNode name arguments).Grammatical := by
  refine branchNode (by decide) (by decide) (List.forall_mem_append.2 ⟨?_, ?_⟩)
  · exact List.forall_mem_map.2 fun i _ => ident_node i
  · exact List.forall_mem_singleton.2
      (branchNode (by decide) (by decide) (List.forall_mem_singleton.2 hlist))

/-- A statement kept as text is not part of a grammatical tree. -/
theorem kind_ne_rawStatement {n : Node} (h : n.Grammatical) : n.kind ≠ SourceKind.rawStatement.label := by
  cases h with
  | plain _ hraw a _ => exact fun hk => hraw (SourceKind.label_injective hk)
  | callOver _ _ _ => exact show SourceKind.overExpression.label ≠ SourceKind.rawStatement.label by decide

end Node.Grammatical

/-! ## Lowered trees -/

namespace Sql

theorem forall_mem_unless {p : Node → Prop} (c : Prop) [Decidable c] {n : Node} (h : p n) :
    ∀ m ∈ if c then [] else [n], p m := by
  split
  · exact List.forall_mem_nil p
  · exact List.forall_mem_singleton.2 h

theorem forall_mem_toList_map {α : Type} {p : Node → Prop} {f : α → Node} (x? : Option α)
    (h : ∀ x, p (f x)) : ∀ m ∈ (x?.map f).toList, p m := by
  cases x? with
  | none => exact List.forall_mem_nil p
  | some x => exact List.forall_mem_singleton.2 (h x)

theorem CallHead.grammatical_node (h : CallHead) {arguments : List Node} {window? : Option Node}
    (harguments : ∀ a ∈ arguments, a.Grammatical) (hwindow : ∀ w ∈ window?, w.Grammatical) :
    (h.node arguments window?).Grammatical := by
  have hlist : (SourceKind.expressionList.branchNode arguments).Grammatical :=
    .branchNode (by decide) (by decide) harguments
  have hcall : (callNode h.name arguments).Grammatical := .callNode h.name hlist
  cases window? with
  | none => exact hcall
  | some window => exact .callOver hcall hlist (hwindow window rfl)

theorem windowNameNode_grammatical (i : Ident) : (windowNameNode i).Grammatical :=
  .textNode (by decide) (by decide) _

theorem windowSpecNode_grammatical (name? : Option Ident) {partition : List Node}
    (h : ∀ n ∈ partition, n.Grammatical) (orderBy : List String) (frame? : Option Frame) :
    (windowSpecNode name? partition orderBy frame?).Grammatical := by
  refine .branchNode (by decide) (by decide) ?_
  simp only [List.forall_mem_append]
  refine ⟨⟨⟨?_, ?_⟩, ?_⟩, ?_⟩
  · exact forall_mem_toList_map name? windowNameNode_grammatical
  · exact forall_mem_unless _ (.branchNode (by decide) (by decide) h)
  · exact forall_mem_unless _ (.branchNode (by decide) (by decide)
      (List.forall_mem_map.2 fun item _ => .textNode (by decide) (by decide) item))
  · exact forall_mem_toList_map frame? fun f => .textNode (by decide) (by decide) f.text

mutual
theorem Expr.grammatical_node : (e : Expr) → e.node.Grammatical
  | .name parts => by
    rw [Expr.node]
    exact .branchNode (by decide) (by decide) (List.forall_mem_map.2 fun i _ => .ident_node i)
  | .value spelling => by
    rw [Expr.node]
    exact .textNode (by decide) (by decide) _
  | .binary left operator right => by
    have hleft := Expr.grammatical_node left
    have hright := Expr.grammatical_node right
    rw [Expr.node]
    exact .plain (k := .binaryExpression) (by decide) (by decide) _
      (List.forall_mem_cons.2 ⟨hleft, List.forall_mem_singleton.2 hright⟩)
  | .nested inner => by
    have hinner := Expr.grammatical_node inner
    rw [Expr.node]
    exact .branchNode (by decide) (by decide) (List.forall_mem_singleton.2 hinner)
  | .call head arguments window => by
    have harguments := argumentNodes_grammatical arguments
    have hwindow := Window.grammatical_node? window
    rw [Expr.node]
    split
    · exact head.grammatical_node harguments hwindow
    · exact .textNode (by decide) (by decide) _
  | .subquery query => by
    rw [Expr.node]
    exact .textNode (by decide) (by decide) _
  | .other spelling => by
    rw [Expr.node]
    exact .textNode (by decide) (by decide) _

theorem Expr.nodes_grammatical : (es : List Expr) → ∀ n ∈ Expr.nodes es, n.Grammatical
  | [] => by
    rw [Expr.nodes]
    exact List.forall_mem_nil _
  | e :: rest => by
    have he := Expr.grammatical_node e
    have hrest := Expr.nodes_grammatical rest
    rw [Expr.nodes]
    exact List.forall_mem_cons.2 ⟨he, hrest⟩

theorem Argument.grammatical_node : (a : Argument) → a.node.Grammatical
  | .expr e => by
    have he := Expr.grammatical_node e
    rw [Argument.node]
    exact he
  | .other spelling => by
    rw [Argument.node]
    exact .textNode (by decide) (by decide) _

theorem argumentNodes_grammatical : (as : List Argument) → ∀ n ∈ argumentNodes as, n.Grammatical
  | [] => by
    rw [argumentNodes]
    exact List.forall_mem_nil _
  | a :: rest => by
    have ha := Argument.grammatical_node a
    have hrest := argumentNodes_grammatical rest
    rw [argumentNodes]
    exact List.forall_mem_cons.2 ⟨ha, hrest⟩

theorem Window.grammatical_node? : (w : Window) → ∀ n ∈ w.node?, n.Grammatical
  | .absent => by
    rw [Window.node?]
    exact nofun
  | .named name => by
    rw [Window.node?]
    rintro n ⟨rfl⟩
    exact windowNameNode_grammatical name
  | .spec name? partitionBy orderBy frame? => by
    have hpartition := Expr.nodes_grammatical partitionBy
    rw [Window.node?]
    rintro n ⟨rfl⟩
    exact windowSpecNode_grammatical name? hpartition orderBy frame?
end

theorem SelectItem.grammatical_node (item : SelectItem) : item.node.Grammatical := by
  cases item with
  | expr e =>
    exact .branchNode (by decide) (by decide) (List.forall_mem_singleton.2 e.grammatical_node)
  | aliased e aliasName =>
    exact .plain (k := .selectItem) (by decide) (by decide) _
      (List.forall_mem_singleton.2 e.grammatical_node)
  | other spelling =>
    exact .branchNode (by decide) (by decide)
      (List.forall_mem_singleton.2 (.textNode (by decide) (by decide) spelling))

theorem Select.grammatical_node (s : Select) : s.node.Grammatical := by
  refine .branchNode (by decide) (by decide) ?_
  simp only [List.forall_mem_append]
  refine ⟨⟨?_, ?_⟩, ?_⟩
  · exact List.forall_mem_singleton.2
      (.branchNode (by decide) (by decide) (List.forall_mem_map.2 fun item _ => item.grammatical_node))
  · exact forall_mem_unless _ (.textNode (by decide) (by decide) _)
  · cases s.selection? with
    | none => exact List.forall_mem_nil _
    | some condition =>
      exact List.forall_mem_singleton.2
        (.branchNode (by decide) (by decide) (List.forall_mem_singleton.2 condition.grammatical_node))

theorem Statement.node_of_plainSelect? {q : Query} {select : Select} (h : q.plainSelect? = some select) :
    (Statement.query q).node = select.node := by
  simp only [Statement.node, h]

theorem Statement.node_of_not_plainSelect? {q : Query} (h : q.plainSelect? = none) :
    (Statement.query q).node = SourceKind.rawStatement.textNode q.text := by
  simp only [Statement.node, h, Statement.text]

/-- A statement is kept as text, or its tree is grammatical. -/
theorem Statement.node_eq_raw_or_grammatical (s : Statement) :
    s.node = SourceKind.rawStatement.textNode s.text ∨ s.node.Grammatical := by
  cases s with
  | other spelling => exact .inl rfl
  | query q =>
    cases h : q.plainSelect? with
    | none => exact .inl (Statement.node_of_not_plainSelect? h)
    | some select =>
      rw [Statement.node_of_plainSelect? h]
      exact .inr select.grammatical_node

end Sql
end DialectConversion
