import DialectConversion.Proofs.Rendering.Parts

/-! The text of a tree whose labels are mapped and which is then rendered, form by form: names, calls
and calls over a window. -/
namespace DialectConversion
set_option autoImplicit false
open Sql Render
open Text (joined)

/-! ## Joined parts -/

@[simp] theorem Text.joined_singleton (separator s : String) : joined separator [s] = s := rfl

/-- Of the function of an over-expression only the text counts. -/
theorem Render.form_overExpression (a : Attributes) (function : Render.Part) (params : List Render.Part) :
    form (some .overExpression) a (function :: params) =
      function.text ++ " OVER (" ++ joinedParts " " params ++ ")" := rfl

namespace Node

/-- The text of a tree that is relabelled and rendered. -/
def plainText (n : Node) : String := n.relabelled.render

/-- What a tree that is relabelled shows of itself. -/
def plainPart (n : Node) : Render.Part := n.relabelled.part

@[simp] theorem text_plainPart (n : Node) : n.plainPart.text = n.plainText := rfl

theorem plainPart_mk_label (k : SourceKind) (a : Attributes) (cs : List Node) :
    (mk k.label a cs).plainPart = ⟨k.target.label, form (some k.target) a (cs.map plainPart)⟩ :=
  part_relabelled_mk_label k a cs

theorem plainText_mk_label (k : SourceKind) (a : Attributes) (cs : List Node) :
    (mk k.label a cs).plainText = form (some k.target) a (cs.map plainPart) :=
  congrArg Render.Part.text (plainPart_mk_label k a cs)

theorem plainText_branchNode (k : SourceKind) (cs : List Node) :
    (k.branchNode cs).plainText = form (some k.target) {} (cs.map plainPart) :=
  plainText_mk_label k {} cs

theorem joinedParts_map_plainPart (separator : String) (cs : List Node) :
    joinedParts separator (cs.map plainPart) = joined separator (cs.map plainText) := by
  rw [joinedParts, List.map_map]
  rfl

/-- Where the form of a kind is the text attribute, the text of a node that has one is that text. -/
theorem plainText_of_text {k : SourceKind} (hk : form (some k.target) = textOrParts) (text : String) :
    (k.textNode text).plainText = text := by
  have hnode : k.textNode text = mk k.label (NameMap.set {} AttributeName.text text) [] := rfl
  rw [hnode, plainText_mk_label, hk, textOrParts, NameMap.get?_set, if_pos rfl, Option.getD_some]

theorem render_document (n : Node) :
    (branch TargetKind.document.label [n.relabelled]).render = n.plainText :=
  n.relabelled.render_document_singleton

end Node

/-! ## Names -/

namespace Sql

/-- The spelling of a part of a name in the target dialect. -/
def Ident.targetText (i : Ident) : String := if i.quote?.isSome then bracketed i.value else i.value

theorem Ident.nameText_node (i : Ident) : nameText i.node.attributes = i.targetText := by
  obtain ⟨value, quote?⟩ := i
  cases quote? with
  | none => rfl
  | some q => rfl

theorem Ident.plainPart_node (i : Ident) :
    i.node.plainPart = ⟨TargetKind.simpleIdentifier.label, i.targetText⟩ := by
  have htext : form (some .simpleIdentifier) i.node.attributes [] = i.targetText := by
    rw [← i.nameText_node]
    exact String.append_empty
  rw [i.node_eq, Node.plainPart_mk_label, List.map_nil]
  exact congrArg (Render.Part.mk _) htext

theorem map_plainPart_node (name : List Ident) :
    (name.map Ident.node).map Node.plainPart =
      name.map fun i => ⟨TargetKind.simpleIdentifier.label, i.targetText⟩ := by
  rw [List.map_map]
  exact List.map_congr_left fun i _ => i.plainPart_node

end Sql

/-- An identifier is its name parts with dots between them, and then what else it has. -/
theorem plainText_identifier (name : List Ident) {rest : List Node}
    (hrest : ∀ n ∈ rest, isName n.plainPart = false) :
    (SourceKind.identifier.branchNode (name.map Ident.node ++ rest)).plainText =
      joined "." (name.map Ident.targetText) ++ joined "" (rest.map Node.plainText) := by
  have hname : ∀ p ∈ (name.map Ident.node).map Node.plainPart, isName p = true := by
    rw [map_plainPart_node]
    exact List.forall_mem_map.2 fun i _ => decide_eq_true rfl
  have hother : ∀ p ∈ rest.map Node.plainPart, isName p = false := List.forall_mem_map.2 hrest
  have hkept : ((name.map Ident.node ++ rest).map Node.plainPart).filter isName =
      (name.map Ident.node).map Node.plainPart := by
    rw [List.map_append, List.filter_append, List.filter_eq_self.2 hname, List.filter_eq_nil_iff.2]
    · exact List.append_nil _
    · intro p hp
      rw [hother p hp]
      exact Bool.false_ne_true
  have hleft : ((name.map Ident.node ++ rest).map Node.plainPart).filter (fun p => !isName p) =
      rest.map Node.plainPart := by
    rw [List.map_append, List.filter_append, List.filter_eq_nil_iff.2, List.filter_eq_self.2]
    · exact List.nil_append _
    · intro p hp
      rw [hother p hp]
      rfl
    · intro p hp
      rw [hname p hp]
      exact Bool.false_ne_true
  rw [Node.plainText_branchNode]
  change joinedParts "." (List.filter isName _) ++ adjacentParts (List.filter (fun p => !isName p) _) = _
  rw [hkept, hleft, map_plainPart_node, adjacentParts, Node.joinedParts_map_plainPart, joinedParts,
    List.map_map]
  rfl

/-! ## Calls -/

theorem plainText_expressionList (es : List Node) :
    (SourceKind.expressionList.branchNode es).plainText = joined ", " (es.map Node.plainText) := by
  rw [Node.plainText_branchNode, ← Node.joinedParts_map_plainPart]
  rfl

theorem plainText_callNode (name : List Ident) (arguments : List Node) :
    (callNode name arguments).plainText =
      joined "." (name.map Ident.targetText) ++
        ("(" ++ joined ", " (arguments.map Node.plainText) ++ ")") := by
  have hrest : ∀ n ∈ [SourceKind.functionArguments.branchNode
      [SourceKind.expressionList.branchNode arguments]], isName n.plainPart = false := by
    refine List.forall_mem_singleton.2 ?_
    exact decide_eq_false (show TargetKind.functionCallParams.label ≠ TargetKind.simpleIdentifier.label by
      decide)
  rw [callNode, plainText_identifier name hrest, List.map_singleton, Text.joined_singleton,
    Node.plainText_branchNode, ← plainText_expressionList arguments]
  rfl

theorem plainPart_overNode (name : List Ident) (arguments : List Node) (window : Node) :
    (overNode name arguments window).plainPart =
      ⟨TargetKind.overExpression.label, form (some .overExpression) {}
        [(callNode name arguments).plainPart, ⟨TargetKind.overExpressionParams.label,
          form (some .overExpressionParams) {} [window.plainPart]⟩]⟩ := by
  have hparams : (SourceKind.overExpressionParams.branchNode [window]).plainPart =
      ⟨TargetKind.overExpressionParams.label, form (some .overExpressionParams) {} [window.plainPart]⟩ :=
    Node.plainPart_mk_label .overExpressionParams {} [window]
  rw [← hparams]
  exact Node.plainPart_mk_label .overExpression {} [_, _]

theorem plainText_overNode (name : List Ident) (arguments : List Node) (window : Node) :
    (overNode name arguments window).plainText =
      (callNode name arguments).plainText ++ " OVER (" ++ window.plainText ++ ")" := by
  rw [← Node.text_plainPart, plainPart_overNode, form_overExpression]
  rfl

end DialectConversion
