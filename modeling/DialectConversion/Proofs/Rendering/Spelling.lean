import DialectConversion.Conversion.Script
import DialectConversion.Proofs.Rendering.PlainText

/-! Lowering, relabelling and rendering give back the text of an expression, up to the spelling of
quoted names and of windows that are referred to by name. The text is written down once, with the
spelling left open; in the spelling of the source it is the canonical text, and in the spelling of the
target it is what a converted expression renders as. -/
namespace DialectConversion
set_option autoImplicit false
open Sql
open Text (joined)

namespace Sql

/-- How a part of a name and the name of a window behind OVER are spelled. -/
structure Spelling where
  name : Ident → String
  windowName : Ident → String

namespace Spelling

/-- As in the canonical text. -/
def source : Spelling := ⟨Ident.text, Ident.text⟩

/-- Quoted parts of names in brackets, and names of windows in parentheses. -/
def target : Spelling := ⟨Ident.targetText, fun i => "(" ++ i.text ++ ")"⟩

end Spelling

/-- The text of a plain call. -/
def CallHead.spelt (sp : Spelling) (h : CallHead) (arguments : List String) (window? : Option String) :
    String :=
  let call := joined "." (h.name.map sp.name) ++ ("(" ++ joined ", " arguments ++ ")") ++
    (match window? with
      | some window => " OVER " ++ window
      | none => "")
  if h.braces then "\x7bfn " ++ call ++ "\x7d" else call

mutual
/-- The text of an expression. What is not lowered keeps its canonical text. -/
def Expr.spelt (sp : Spelling) : Expr → String
  | .name parts => joined "." (parts.map sp.name)
  | .value spelling => spelling
  | .binary left operator right => left.spelt sp ++ " " ++ operator ++ " " ++ right.spelt sp
  | .nested inner => "(" ++ inner.spelt sp ++ ")"
  | .call head arguments window =>
    if head.isPlain then head.spelt sp (argumentsSpelt sp arguments) (window.spelt? sp)
    else head.text (argumentTexts arguments) window.text?
  | .subquery query => "(" ++ query ++ ")"
  | .other spelling => spelling

/-- The texts of expressions. -/
def Expr.eachSpelt (sp : Spelling) : List Expr → List String
  | [] => []
  | e :: rest => e.spelt sp :: Expr.eachSpelt sp rest

/-- The text of an argument. -/
def Argument.spelt (sp : Spelling) : Argument → String
  | .expr e => e.spelt sp
  | .other spelling => spelling

/-- The texts of arguments. -/
def argumentsSpelt (sp : Spelling) : List Argument → List String
  | [] => []
  | a :: rest => a.spelt sp :: argumentsSpelt sp rest

/-- The text of a window. -/
def Window.spelt? (sp : Spelling) : Window → Option String
  | .absent => none
  | .named name => some (sp.windowName name)
  | .spec name? partitionBy orderBy frame? =>
    some ("(" ++ windowText name? (Expr.eachSpelt sp partitionBy) orderBy frame? ++ ")")
end

/-! ## The spelling of the source -/

theorem CallHead.text_of_isPlain {h : CallHead} (hplain : h.isPlain = true) (arguments : List String)
    (window? : Option String) : h.text arguments window? = h.spelt .source arguments window? := by
  obtain ⟨name, braces, parameters?, treatment?, clauses, withinGroup, filter?, nullTreatment?⟩ := h
  simp only [isPlain, Bool.and_eq_true, Option.isNone_iff_eq_none, List.isEmpty_iff] at hplain
  obtain ⟨⟨⟨⟨⟨rfl, rfl⟩, rfl⟩, rfl⟩, rfl⟩, rfl⟩ := hplain
  have hcall : ∀ braces, callText ⟨name, braces, none, none, [], [], none, none⟩ arguments =
      joined "." (name.map Ident.text) ++ ("(" ++ joined ", " arguments ++ ")") := by
    intro braces
    simp [callText, argumentText, dottedText, String.append_assoc]
  cases window? with
  | none => simp only [text, hcall, spelt, Spelling.source]
  | some window => simp only [text, hcall, spelt, Spelling.source]

mutual
/-- In the spelling of the source an expression has its canonical text. -/
theorem Expr.spelt_source : (e : Expr) → e.spelt .source = e.text
  | .name parts => by
    rw [Expr.spelt, Expr.text]
    rfl
  | .value spelling => by rw [Expr.spelt, Expr.text]
  | .binary left operator right => by
    have hleft := Expr.spelt_source left
    have hright := Expr.spelt_source right
    rw [Expr.spelt, Expr.text, hleft, hright]
  | .nested inner => by
    have hinner := Expr.spelt_source inner
    rw [Expr.spelt, Expr.text, hinner]
  | .call head arguments window => by
    have harguments := argumentsSpelt_source arguments
    have hwindow := Window.spelt?_source window
    rw [Expr.spelt, Expr.text, harguments, hwindow]
    split
    · rename_i hplain
      exact (head.text_of_isPlain hplain _ _).symm
    · rfl
  | .subquery query => by rw [Expr.spelt, Expr.text]
  | .other spelling => by rw [Expr.spelt, Expr.text]

theorem Expr.eachSpelt_source : (es : List Expr) → Expr.eachSpelt .source es = Expr.texts es
  | [] => by rw [Expr.eachSpelt, Expr.texts]
  | e :: rest => by
    have he := Expr.spelt_source e
    have hrest := Expr.eachSpelt_source rest
    rw [Expr.eachSpelt, Expr.texts, he, hrest]

theorem Argument.spelt_source : (a : Argument) → a.spelt .source = a.text
  | .expr e => by
    have he := Expr.spelt_source e
    rw [Argument.spelt, Argument.text, he]
  | .other spelling => by rw [Argument.spelt, Argument.text]

theorem argumentsSpelt_source : (as : List Argument) → argumentsSpelt .source as = argumentTexts as
  | [] => by rw [argumentsSpelt, argumentTexts]
  | a :: rest => by
    have ha := Argument.spelt_source a
    have hrest := argumentsSpelt_source rest
    rw [argumentsSpelt, argumentTexts, ha, hrest]

theorem Window.spelt?_source : (w : Window) → w.spelt? .source = w.text?
  | .absent => by rw [Window.spelt?, Window.text?]
  | .named name => by
    rw [Window.spelt?, Window.text?]
    rfl
  | .spec name? partitionBy orderBy frame? => by
    have hpartition := Expr.eachSpelt_source partitionBy
    rw [Window.spelt?, Window.text?, hpartition]
end

/-! ## The spelling of the target -/

mutual
/-- Whether no call in an expression stands between braces. -/
def Expr.isBraceFree : Expr → Bool
  | .binary left _ right => left.isBraceFree && right.isBraceFree
  | .nested inner => inner.isBraceFree
  | .call head arguments window => !head.braces && argumentsBraceFree arguments && window.isBraceFree
  | .name _ | .value _ | .subquery _ | .other _ => true

/-- Whether no call in the expressions stands between braces. -/
def Expr.eachBraceFree : List Expr → Bool
  | [] => true
  | e :: rest => e.isBraceFree && Expr.eachBraceFree rest

/-- Whether no call in an argument stands between braces. -/
def Argument.isBraceFree : Argument → Bool
  | .expr e => e.isBraceFree
  | .other _ => true

/-- Whether no call in the arguments stands between braces. -/
def argumentsBraceFree : List Argument → Bool
  | [] => true
  | a :: rest => a.isBraceFree && argumentsBraceFree rest

/-- Whether no call in a window stands between braces. -/
def Window.isBraceFree : Window → Bool
  | .absent => true
  | .named _ => true
  | .spec _ partitionBy _ _ => Expr.eachBraceFree partitionBy
end

end Sql

/-! ## The text of lowered expressions -/

theorem plainText_windowNameNode (i : Ident) : (windowNameNode i).plainText = i.text :=
  Node.plainText_of_text rfl i.text

theorem plainText_rawExpression (text : String) :
    (SourceKind.rawExpression.textNode text).plainText = text := Node.plainText_of_text rfl text

theorem map_plainText_clause (k : SourceKind) (keyword : String)
    (hk : ∀ parts, Render.form (some k.target) {} parts =
      keyword ++ " " ++ Render.joinedParts ", " parts) (items : List Node) :
    (if items.isEmpty then [] else [k.branchNode items]).map Node.plainText =
      listClause keyword (items.map Node.plainText) := by
  cases items with
  | nil => rfl
  | cons item rest =>
    have htext := Node.plainText_branchNode k (item :: rest)
    rw [hk, Node.joinedParts_map_plainPart] at htext
    exact congrArg (fun text => [text]) htext

theorem map_plainText_toList {α : Type} {f : α → Node} {g : α → String} (x? : Option α)
    (h : ∀ x, (f x).plainText = g x) :
    (x?.map f).toList.map Node.plainText = (x?.map g).toList := by
  cases x? with
  | none => rfl
  | some x => exact congrArg (fun text => [text]) (h x)

theorem plainText_windowSpecNode (name? : Option Ident) (partition : List Node) (orderBy : List String)
    (frame? : Option Frame) :
    (windowSpecNode name? partition orderBy frame?).plainText =
      windowText name? (partition.map Node.plainText) orderBy frame? := by
  have hname := map_plainText_toList name? plainText_windowNameNode
  have hpartition := map_plainText_clause .queryPartitionClause "PARTITION BY" (fun parts => rfl)
    partition
  have horder := map_plainText_clause .orderByClause "ORDER BY" (fun parts => rfl)
    (orderBy.map SourceKind.orderByElement.textNode)
  have hframe := map_plainText_toList frame? fun f =>
    Node.plainText_of_text (k := .windowingClause) rfl f.text
  have hitems : (orderBy.map SourceKind.orderByElement.textNode).map Node.plainText = orderBy := by
    rw [List.map_map]
    exact (List.map_congr_left fun item _ => Node.plainText_of_text rfl item).trans (List.map_id _)
  rw [hitems, List.isEmpty_map] at horder
  rw [windowSpecNode, Node.plainText_branchNode]
  change Render.joinedParts " " _ = _
  rw [Node.joinedParts_map_plainPart, List.map_append, List.map_append, List.map_append, hname,
    hpartition, horder, hframe]
  rfl

theorem plainText_callHead_node {h : CallHead} (hbraces : h.braces = false) (arguments : List Node)
    (window? : Option Node) :
    (h.node arguments window?).plainText =
      h.spelt .target (arguments.map Node.plainText) (window?.map fun w => "(" ++ w.plainText ++ ")") := by
  cases window? with
  | none =>
    rw [CallHead.node_none, plainText_callNode]
    simp only [CallHead.spelt, hbraces, Option.map_none, String.append_empty]
    rfl
  | some window =>
    rw [CallHead.node_some, plainText_overNode, plainText_callNode]
    have hover : " OVER (" ++ window.plainText = " OVER " ++ ("(" ++ window.plainText) := by
      rw [← String.append_assoc]
      rfl
    simp only [CallHead.spelt, hbraces, Option.map_some, String.append_assoc, hover]
    rfl

namespace Sql

mutual
theorem Expr.plainText_node : (e : Expr) → e.isBraceFree = true → e.node.plainText = e.spelt .target
  | .name parts, _ => by
    have h := plainText_identifier parts (List.forall_mem_nil _)
    rw [List.append_nil] at h
    rw [Expr.node, h, Expr.spelt]
    exact String.append_empty
  | .value spelling, _ => by
    rw [Expr.node, Expr.spelt]
    exact Node.plainText_of_text rfl spelling
  | .binary left operator right, h => by
    rw [Expr.isBraceFree, Bool.and_eq_true] at h
    have hleft := Expr.plainText_node left h.1
    have hright := Expr.plainText_node right h.2
    rw [Expr.node, Expr.spelt, ← hleft, ← hright]
    exact Node.plainText_mk_label .binaryExpression _ [left.node, right.node]
  | .nested inner, h => by
    rw [Expr.isBraceFree] at h
    have hinner := Expr.plainText_node inner h
    rw [Expr.node, Expr.spelt, ← hinner]
    exact Node.plainText_branchNode .parenthesizedExpression [inner.node]
  | .call head arguments window, h => by
    rw [Expr.isBraceFree, Bool.and_eq_true, Bool.and_eq_true, Bool.not_eq_true'] at h
    have harguments := argumentNodes_plainText arguments h.1.2
    have hwindow := Window.plainText_node? window h.2
    rw [Expr.node, Expr.spelt]
    split
    · rw [plainText_callHead_node h.1.1, harguments, hwindow]
    · exact plainText_rawExpression _
  | .subquery query, _ => by
    rw [Expr.node, Expr.spelt]
    exact plainText_rawExpression _
  | .other spelling, _ => by
    rw [Expr.node, Expr.spelt]
    exact plainText_rawExpression _

theorem Expr.nodes_plainText : (es : List Expr) → Expr.eachBraceFree es = true →
    (Expr.nodes es).map Node.plainText = Expr.eachSpelt .target es
  | [], _ => by rw [Expr.nodes, Expr.eachSpelt, List.map_nil]
  | e :: rest, h => by
    rw [Expr.eachBraceFree, Bool.and_eq_true] at h
    have he := Expr.plainText_node e h.1
    have hrest := Expr.nodes_plainText rest h.2
    rw [Expr.nodes, Expr.eachSpelt, List.map_cons, he, hrest]

theorem Argument.plainText_node : (a : Argument) → a.isBraceFree = true →
    a.node.plainText = a.spelt .target
  | .expr e, h => by
    rw [Argument.isBraceFree] at h
    have he := Expr.plainText_node e h
    rw [Argument.node, Argument.spelt, he]
  | .other spelling, _ => by
    rw [Argument.node, Argument.spelt]
    exact plainText_rawExpression _

theorem argumentNodes_plainText : (as : List Argument) → argumentsBraceFree as = true →
    (argumentNodes as).map Node.plainText = argumentsSpelt .target as
  | [], _ => by rw [argumentNodes, argumentsSpelt, List.map_nil]
  | a :: rest, h => by
    rw [argumentsBraceFree, Bool.and_eq_true] at h
    have ha := Argument.plainText_node a h.1
    have hrest := argumentNodes_plainText rest h.2
    rw [argumentNodes, argumentsSpelt, List.map_cons, ha, hrest]

theorem Window.plainText_node? : (w : Window) → w.isBraceFree = true →
    (w.node?.map fun n => "(" ++ n.plainText ++ ")") = w.spelt? .target
  | .absent, _ => by rw [Window.node?, Window.spelt?, Option.map_none]
  | .named name, _ => by
    rw [Window.node?, Window.spelt?, Option.map_some, plainText_windowNameNode]
    rfl
  | .spec name? partitionBy orderBy frame?, h => by
    rw [Window.isBraceFree] at h
    have hpartition := Expr.nodes_plainText partitionBy h
    rw [Window.node?, Window.spelt?, Option.map_some, plainText_windowSpecNode, hpartition]
end

end Sql

namespace Conversion

/-- Without the rebuilding of aggregates a converted expression keeps its text, but for the spelling of
quoted names and of windows that are referred to by name. -/
theorem render_expression {config : Config} {cv : Conversion}
    (hdisabled : config.enables Converter.aggregateOver.name = false) (hcv : ofConfig config = .ok cv)
    {e : Expr} (hbraces : e.isBraceFree = true) {doc : ConvertedDocument}
    (hdoc : cv.convertDocument e.node = .ok doc) :
    e.spelt .source = e.text ∧ doc.root.render = e.spelt .target := by
  obtain rfl := eq_of_ofConfig hcv
  obtain ⟨-, rfl⟩ := convertDocument_relabels (ruleFor_standard_of_disabled hdisabled) hdoc
  refine ⟨e.spelt_source, ?_⟩
  rw [Node.render_document, e.plainText_node hbraces]

/-- Quoted names inside calls, a window that is referred to by name and a window that is not. -/
theorem render_expression_quoted :
    let argument : Expr := .name [⟨"t", none⟩, ⟨"a]b", some '"'⟩]
    let total : Expr := .call { name := [⟨"sum", none⟩] } [.expr argument] (.named ⟨"w", none⟩)
    let e : Expr := .call { name := [⟨"Rank", some '"'⟩] } [.expr total]
      (.spec none [.name [⟨"c", some '"'⟩]] ["d DESC"] (some ⟨"ROWS", "1 PRECEDING", none⟩))
    ∃ doc, (standard (({} : Config).disabling Converter.aggregateOver.name)).convertDocument e.node =
        .ok doc ∧
      e.text =
        "\"Rank\"(sum(t.\"a]b\") OVER w) OVER (PARTITION BY \"c\" ORDER BY d DESC ROWS 1 PRECEDING)" ∧
      doc.root.render =
        "[Rank](sum(t.[a]]b]) OVER (w)) OVER (PARTITION BY [c] ORDER BY d DESC ROWS 1 PRECEDING)" := by
  intro argument total e
  have hdisabled := Config.enables_disabling {} Converter.aggregateOver.name
  have hdoc := convertDocument_of_height_le (ruleFor_standard_of_disabled hdisabled) (n := e.node)
    (by decide +kernel)
  obtain ⟨hsource, htarget⟩ :=
    render_expression hdisabled (ofConfig_eq _) (e := e) (by decide +kernel) hdoc
  exact ⟨_, hdoc, hsource.symm.trans (by decide +kernel), htarget.trans (by decide +kernel)⟩

end Conversion
end DialectConversion
