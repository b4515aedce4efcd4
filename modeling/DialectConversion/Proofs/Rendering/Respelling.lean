import DialectConversion.Conversion.Script
import DialectConversion.Proofs.Conversion.OverCalls
import DialectConversion.Proofs.Rendering.PlainText

/-! The rebuilding of aggregates changes how the name of a rebuilt function is spelled and nothing
else. A tree with the names spelled that way beforehand, converted with the rebuilding left out, has
the same text and the same findings. -/
namespace DialectConversion
set_option autoImplicit false
open Sql

namespace Node

/-- The function name with which an over-expression is rebuilt, none if it is not rebuilt. -/
def rebuiltFunction? (n : Node) : Option String :=
  if n.kind = SourceKind.overExpression.label then
    match n.matchOver with
    | .rebuild m => some m.functionName
    | .delegate _ => none
  else none

/-- The nodes with the name parts of the first one replaced by an unquoted one of the given text. -/
def withFunctionName (name : String) : List Node → List Node
  | [] => []
  | function :: rest =>
    mk function.kind function.attributes (function.children.map fun c =>
      if c.kind = SourceKind.namePart.label then SourceKind.namePart.textNode name else c) :: rest

mutual
/-- The tree with the name of every function that is rebuilt spelled as it is rebuilt. -/
def respelt : Node → Node
  | mk k a cs =>
    match rebuiltFunction? (mk k a cs) with
    | some name => mk k a (withFunctionName name (respeltEach cs))
    | none => mk k a (respeltEach cs)

/-- The given trees with the names of rebuilt functions respelt. -/
def respeltEach : List Node → List Node
  | [] => []
  | c :: rest => respelt c :: respeltEach rest
end

theorem respeltEach_eq_map (cs : List Node) : respeltEach cs = cs.map respelt := by
  induction cs with
  | nil => rfl
  | cons c rest ih => rw [respeltEach, ih, List.map_cons]

theorem respelt_of_some {n : Node} {name : String} (h : n.rebuiltFunction? = some name) :
    n.respelt = mk n.kind n.attributes (withFunctionName name (n.children.map respelt)) := by
  cases n with
  | mk k a cs =>
    rw [respelt, h, respeltEach_eq_map]
    rfl

theorem respelt_of_none {n : Node} (h : n.rebuiltFunction? = none) :
    n.respelt = mk n.kind n.attributes (n.children.map respelt) := by
  cases n with
  | mk k a cs =>
    rw [respelt, h, respeltEach_eq_map]
    rfl

theorem respelt_mk_of_ne {k : SourceKind} (hk : k ≠ .overExpression) (a : Attributes) (cs : List Node) :
    (mk k.label a cs).respelt = mk k.label a (cs.map respelt) :=
  respelt_of_none (if_neg fun h => hk (SourceKind.label_injective h))

theorem respelt_branchNode_of_ne {k : SourceKind} (hk : k ≠ .overExpression) (cs : List Node) :
    (k.branchNode cs).respelt = k.branchNode (cs.map respelt) := respelt_mk_of_ne hk {} cs

theorem respelt_ident_node (i : Ident) : i.node.respelt = i.node := by
  rw [i.node_eq, respelt_mk_of_ne (by decide), List.map_nil]

theorem respelt_callNode (name : List Ident) (arguments : List Node) :
    (callNode name arguments).respelt = callNode name (arguments.map respelt) := by
  have hname : (name.map Ident.node).map respelt = name.map Ident.node := by
    rw [List.map_map]
    exact List.map_congr_left fun i _ => respelt_ident_node i
  rw [callNode, respelt_branchNode_of_ne (by decide), List.map_append, hname, List.map_singleton,
    respelt_branchNode_of_ne (by decide), List.map_singleton, respelt_branchNode_of_ne (by decide)]
  rfl

theorem respelt_overExpressionParams (window : Node) :
    (SourceKind.overExpressionParams.branchNode [window]).respelt =
      SourceKind.overExpressionParams.branchNode [window.respelt] := by
  rw [respelt_branchNode_of_ne (by decide), List.map_singleton]

theorem respelt_overNode_of_delegate {name : List Ident} {arguments : List Node} {window : Node}
    {reason : DelegateReason} (hmatch : (overNode name arguments window).matchOver = .delegate reason) :
    (overNode name arguments window).respelt = overNode name (arguments.map respelt) window.respelt := by
  have hnone : (overNode name arguments window).rebuiltFunction? = none := by
    rw [rebuiltFunction?, hmatch]
    exact if_pos rfl
  rw [respelt_of_none hnone]
  change branch _ [(callNode name arguments).respelt,
    (SourceKind.overExpressionParams.branchNode [window]).respelt] = _
  rw [respelt_callNode, respelt_overExpressionParams]
  rfl

theorem respelt_overNode_of_rebuild {i : Ident} {arguments : List Node} {window : Node}
    {m : MatchedOver} (hmatch : (overNode [i] arguments window).matchOver = .rebuild m) :
    (overNode [i] arguments window).respelt =
      overNode [⟨m.functionName, none⟩] (arguments.map respelt) window.respelt := by
  have hsome : (overNode [i] arguments window).rebuiltFunction? = some m.functionName := by
    rw [rebuiltFunction?, hmatch]
    exact if_pos rfl
  rw [respelt_of_some hsome]
  change branch _ (withFunctionName m.functionName [(callNode [i] arguments).respelt,
    (SourceKind.overExpressionParams.branchNode [window]).respelt]) = _
  rw [respelt_callNode, respelt_overExpressionParams]
  have hname : (if i.node.kind = SourceKind.namePart.label then
      SourceKind.namePart.textNode m.functionName else i.node) =
      SourceKind.namePart.textNode m.functionName := if_pos i.kind_node
  rw [withFunctionName]
  simp only [callNode, SourceKind.branchNode, branch, children_mk, List.map_append, List.map_cons,
    List.map_nil, hname]
  rfl

end Node

namespace Conversion

/-! ## Conversion of a tree in place of another -/

/-- As far as text and findings go, one tree is converted to what another one is relabelled to, as
soon as the other one fits under the limit. -/
def ShowsAs (cv : Conversion) (n other : Node) : Prop :=
  ∀ levels, other.height ≤ levels →
    (cv.contribution levels n).Shows [other.plainPart] other.relabelFindings

theorem showsAs_of_relabel {cv : Conversion} {k : SourceKind} (hrule : cv.ruleFor k.label = .relabel)
    (a : Attributes) {cs : List Node} {g : Node → Node} (hcs : ∀ c ∈ cs, cv.ShowsAs c (g c)) :
    cv.ShowsAs (Node.mk k.label a cs) (Node.mk k.label a (cs.map g)) := by
  intro levels hlevels
  cases levels with
  | zero => exact absurd hlevels (Nat.not_le.2 (Node.height_pos _))
  | succ levels =>
    rw [Node.height_mk_le_succ_iff, List.forall_mem_map] at hlevels
    have hbelow := Contribution.Shows.inOrder fun c hc => hcs c hc levels (hlevels c hc)
    rw [contribution_relabel hrule]
    refine ⟨?_, ?_, hbelow.error_eq⟩
    · simp only [Node.kind_mk, Node.attributes_mk, Node.children_mk, mapLabel?_label, Option.getD_some,
        List.map_cons, List.map_nil]
      rw [Node.part_mk, TargetKind.ofLabel?_label, hbelow.parts_eq, Node.plainPart_mk_label,
        List.map_map]
      rfl
    · rw [Node.relabelFindings_mk, List.flatMap_map]
      simp only [Node.children_mk, hbelow.findings_eq]
      rfl

section
variable {config : Config} {arguments arguments' : List Node} {window window' : Node}

theorem showsAs_respelt_of_ne {k : SourceKind} (hk : k ≠ .overExpression) (a : Attributes)
    {cs : List Node} (hcs : ∀ c ∈ cs, (standard config).ShowsAs c c.respelt) :
    (standard config).ShowsAs (Node.mk k.label a cs) (Node.mk k.label a cs).respelt := by
  rw [Node.respelt_mk_of_ne hk]
  exact showsAs_of_relabel (ruleFor_standard_of_ne hk config) a hcs

/-- A call that is kept shows its parts. The window of a kept call is one level higher up than that of
a relabelled one, so that what fits stays within the limit. -/
theorem showsAs_overNode_of_delegate
    (henabled : config.enables Converter.aggregateOver.name = true) {name : List Ident}
    {reason : DelegateReason} (hmatch : (overNode name arguments window).matchOver = .delegate reason)
    (hcall : (standard config).ShowsAs (callNode name arguments) (callNode name arguments'))
    (hwindow : (standard config).ShowsAs window window') :
    (standard config).ShowsAs (overNode name arguments window) (overNode name arguments' window') := by
  intro levels hlevels
  have hheight := height_overNode name arguments' window'
  cases levels with
  | zero => omega
  | succ levels =>
    have hc := hcall levels (by omega)
    have hw := (hwindow levels (by omega)).under_leaf .overExpressionParams
    have h := (hc.andThen hw).under_leaf .overExpression
    rw [contribution_overNode_of_delegate henabled hmatch, plainPart_overNode, relabelFindings_overNode]
    exact h

/-- A call that is rebuilt shows the rebuilt name in place of its own. Its arguments and its window are
higher up than those of a relabelled one. -/
theorem showsAs_overNode_of_rebuild
    (henabled : config.enables Converter.aggregateOver.name = true) {i : Ident} {m : MatchedOver}
    (hmatch : (overNode [i] arguments window).matchOver = .rebuild m)
    (harguments : (standard config).ShowsAs (SourceKind.expressionList.branchNode arguments)
      (SourceKind.expressionList.branchNode arguments'))
    (hwindow : (standard config).ShowsAs window window') :
    (standard config).ShowsAs (overNode [i] arguments window)
      (overNode [⟨m.functionName, none⟩] arguments' window') := by
  obtain ⟨j, hj, hm⟩ := of_matchOver_overNode hmatch
  obtain rfl : i = j := (List.cons.inj hj).1
  rw [show m.functionName = i.identifier.canonical from congrArg MatchedOver.functionName hm]
  intro levels hlevels
  have hheight := height_overNode [⟨i.identifier.canonical, none⟩] arguments' window'
  have hcall := height_callNode [⟨i.identifier.canonical, none⟩] arguments'
  cases levels with
  | zero => omega
  | succ levels =>
    have ha := (harguments levels (by omega)).under_leaf .simpleIdentifierParams
    have hf := ha.under_rebuiltName i.identifier.canonical
    have hw := (hwindow levels (by omega)).under_leaf .overExpressionParams
    have h := (hf.andThen hw).under_leaf .overExpression
    have htext : (callNode [⟨i.identifier.canonical, none⟩] arguments').plainText =
        i.identifier.canonical ++ Render.adjacentParts [⟨TargetKind.simpleIdentifierParams.label,
          Render.form (some .simpleIdentifierParams) {}
            [(SourceKind.expressionList.branchNode arguments').plainPart]⟩] := by
      rw [plainText_callNode, ← plainText_expressionList]
      rfl
    rw [contribution_overNode_of_rebuild henabled hmatch, plainPart_overNode, Render.form_overExpression,
      Node.text_plainPart, htext, relabelFindings_overNode, relabelFindings_callNode]
    exact h

/-- A grammatical tree is converted as if its functions had been respelt beforehand. -/
theorem showsAs_respelt (henabled : config.enables Converter.aggregateOver.name = true) {n : Node}
    (h : n.Grammatical) : (standard config).ShowsAs n n.respelt := by
  induction h with
  | plain hover _ a _ ih => exact showsAs_respelt_of_ne hover a ih
  | @callOver name arguments window _ _ _ ihcall ihlist ihwindow =>
    rw [Node.respelt_callNode] at ihcall
    rw [Node.respelt_branchNode_of_ne (k := .expressionList) (by decide)] at ihlist
    cases hmatch : (overNode name arguments window).matchOver with
    | rebuild m =>
      obtain ⟨i, rfl, -⟩ := of_matchOver_overNode hmatch
      rw [Node.respelt_overNode_of_rebuild hmatch]
      exact showsAs_overNode_of_rebuild henabled hmatch ihlist ihwindow
    | delegate reason =>
      rw [Node.respelt_overNode_of_delegate hmatch]
      exact showsAs_overNode_of_delegate henabled hmatch ihcall ihwindow

end

/-! ## Scripts -/

theorem showsAs_respelt_scriptNode {config : Config}
    (henabled : config.enables Converter.aggregateOver.name = true) (statements : List Statement) :
    (standard config).ShowsAs (scriptNode statements) (scriptNode statements).respelt := by
  refine showsAs_respelt_of_ne (by decide) _ (List.forall_mem_map.2 fun s _ => ?_)
  rcases s.node_eq_raw_or_grammatical with h | h
  · rw [h]
    exact showsAs_respelt_of_ne (k := .rawStatement) (by decide) _ (List.forall_mem_nil _)
  · exact showsAs_respelt henabled h

/-- With the rebuilding of aggregates a script is converted to the text and the findings that it has
without it once the names of the rebuilt functions are respelt, under every limit that is enough for
the latter. -/
theorem convertStatements_eq_respelt {config : Config} {on off : Conversion}
    (henabled : config.enables Converter.aggregateOver.name = true)
    (hon : ofConfig config = .ok on)
    (hoff : ofConfig (config.disabling Converter.aggregateOver.name) = .ok off)
    (statements : List Statement) {plain : ConvertedDocument}
    (hplain : off.convertDocument (scriptNode statements).respelt = .ok plain) :
    ∃ doc, on.convertStatements statements = .ok doc ∧ doc.root.render = plain.root.render ∧
      doc.diagnostics = plain.diagnostics := by
  obtain rfl := eq_of_ofConfig hon
  obtain rfl := eq_of_ofConfig hoff
  have hrule := ruleFor_standard_of_disabled (config.enables_disabling Converter.aggregateOver.name)
  obtain ⟨hheight, rfl⟩ := convertDocument_relabels hrule hplain
  rw [config_standard, config.maxDepth_disabling] at hheight
  have h := showsAs_respelt_scriptNode henabled statements config.maxDepth hheight
  refine ⟨_, convertDocument_of_success h.error_eq, ?_, h.findings_eq⟩
  rw [Node.branch, Node.branch, Node.render_mk, Node.render_mk, config_standard, h.parts_eq]
  rfl

/-- The call of a function with one argument over the window w. -/
def callOverW (function : Ident) (argument : Expr) : Expr :=
  .call { name := [function] } [.expr argument] (.named ⟨"w", none⟩)

/-- Of three calls inside each other the outer two are rebuilt: the first is quoted and keeps its
spelling, and the second gets the canonical one. -/
theorem convertStatements_eq_respelt_nested :
    let outer := callOverW ⟨"first_value", some '"'⟩ <| callOverW ⟨"First_Value", none⟩ <|
      callOverW ⟨"sum", none⟩ (.name [⟨"a", none⟩])
    ∃ doc, (standard {}).convertStatements [.query { body := .select { projection := [.expr outer] } }] =
        .ok doc ∧
      doc.root.render = "SELECT first_value(FIRST_VALUE(sum(a) OVER (w)) OVER (w)) OVER (w)" := by
  intro outer
  have hrule := ruleFor_standard_of_disabled (Config.enables_disabling {} Converter.aggregateOver.name)
  have hplain := convertDocument_of_height_le hrule (n := (scriptNode
    [.query { body := .select { projection := [.expr outer] } }]).respelt) (by decide +kernel)
  obtain ⟨doc, hdoc, hrender, -⟩ :=
    convertStatements_eq_respelt rfl (ofConfig_eq {}) (ofConfig_eq _) _ hplain
  exact ⟨doc, hdoc, hrender.trans (by decide +kernel)⟩

end Conversion
end DialectConversion
