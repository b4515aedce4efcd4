import DialectConversion.Conversion.Script
import DialectConversion.Proofs.Conversion.OverCalls

/-! What the conversion of lowered trees reports. Below a statement nothing is reported, and the limit
on nesting is all that stops a conversion; a statement kept as text is reported once. -/
namespace DialectConversion
set_option autoImplicit false
open Sql

namespace Contribution

/-- Reports the given findings and nothing else, unless the limit stops it, which does not happen to
what fits. -/
def Reports (limit : Nat) (fits : Prop) (ds : List Diagnostic) (c : Contribution) : Prop :=
  match c.error? with
  | none => c.findings = ds
  | some e => ¬ fits ∧ ∃ kind, e = .depthLimitExceeded kind limit

namespace Reports

variable {limit : Nat} {fits : Prop} {ds es : List Diagnostic} {a b : Contribution}

theorem andThen (ha : a.Reports limit fits ds) (hb : b.Reports limit fits es) :
    (a.andThen b).Reports limit fits (ds ++ es) := by
  cases h : a.error? with
  | some e =>
    rw [andThen_of_error h]
    simpa only [Reports, h] using ha
  | none =>
    rw [andThen_of_success h]
    simp only [Reports, h] at ha
    cases he : b.error? with
    | some e => simpa only [Reports, he] using hb
    | none =>
      simp only [Reports, he] at hb
      simp only [Reports, ha, hb]

theorem congr (h : a.Reports limit fits ds) (hfindings : a.findings = b.findings)
    (herror : a.error? = b.error?) : b.Reports limit fits ds := by
  unfold Reports at h ⊢
  rwa [← hfindings, ← herror]

theorem under (child : Node) (h : a.Reports limit fits ds) : (a.under child).Reports limit fits ds :=
  h.congr rfl rfl

/-- What fits with more around it fits by itself. -/
theorem mono {whole : Prop} (h : a.Reports limit fits ds) (himp : whole → fits) :
    a.Reports limit whole ds := by
  unfold Reports at h ⊢
  cases he : a.error? with
  | none =>
    rw [he] at h
    exact h
  | some e =>
    rw [he] at h
    exact ⟨fun hwhole => h.1 (himp hwhole), h.2⟩

theorem inOrder {α : Type} {f : α → Contribution} {d : α → List Diagnostic} {xs : List α}
    (h : ∀ x ∈ xs, (f x).Reports limit fits (d x)) :
    (Contribution.inOrder (xs.map f)).Reports limit fits (xs.flatMap d) := by
  induction xs with
  | nil => rfl
  | cons x xs ih =>
    rw [List.forall_mem_cons] at h
    exact h.1.andThen (ih h.2)

end Reports
end Contribution

namespace Conversion

/-- The conversion of a node reports the given findings, however many levels are left, and succeeds
where the node fits into them. -/
def Reports (cv : Conversion) (n : Node) (ds : List Diagnostic) : Prop :=
  ∀ levels, (cv.contribution levels n).Reports cv.config.maxDepth (n.height ≤ levels) ds

variable {cv : Conversion}

theorem reports_zero (cv : Conversion) (n : Node) (ds : List Diagnostic) :
    (cv.contribution 0 n).Reports cv.config.maxDepth (n.height ≤ 0) ds := by
  rw [contribution_zero]
  exact ⟨Nat.not_le.2 n.height_pos, n.kind, rfl⟩

theorem reports_of_relabel {n : Node} (hrule : cv.ruleFor n.kind = .relabel) {d : Node → List Diagnostic}
    (hcs : ∀ c ∈ n.children, cv.Reports c (d c)) :
    cv.Reports n (Rule.relabelFindings n ++ n.children.flatMap d) := by
  intro levels
  cases levels with
  | zero => exact reports_zero cv n _
  | succ levels =>
    rw [contribution_relabel hrule]
    have hbelow := Contribution.Reports.inOrder fun c hc =>
      (hcs c hc levels).mono fun (hn : n.height ≤ levels + 1) => by
        have hlt := Node.height_lt_of_mem hc
        omega
    have hown : (⟨[], Rule.relabelFindings n, none⟩ : Contribution).Reports cv.config.maxDepth
        (n.height ≤ levels + 1) (Rule.relabelFindings n) := rfl
    exact (hown.andThen hbelow).congr rfl rfl

theorem quiet_of_relabel {k : SourceKind} (hrule : cv.ruleFor k.label = .relabel)
    (hraw : k ≠ .rawStatement) (a : Attributes) {cs : List Node} (hcs : ∀ c ∈ cs, cv.Reports c []) :
    cv.Reports (Node.mk k.label a cs) [] := by
  have h := reports_of_relabel (n := Node.mk k.label a cs) hrule hcs
  rwa [Rule.relabelFindings_label hraw, List.flatMap_eq_nil_iff.2 fun _ _ => rfl] at h

/-! ## Lowered trees under standard settings -/

variable {config : Config}

/-- A call over a window finds its arguments and its window, whichever way it is treated. -/
theorem quiet_overNode {name : List Ident} {arguments : List Node} {window : Node}
    (hcall : (standard config).Reports (callNode name arguments) [])
    (hlist : (standard config).Reports (SourceKind.expressionList.branchNode arguments) [])
    (hwindow : (standard config).Reports window []) :
    (standard config).Reports (overNode name arguments window) [] := by
  cases henabled : config.enables Converter.aggregateOver.name with
  | false =>
    have hrule := ruleFor_standard_of_disabled henabled
    have hparams : (standard config).Reports (SourceKind.overExpressionParams.branchNode [window]) [] :=
      quiet_of_relabel (hrule _) (by decide) _ (List.forall_mem_singleton.2 hwindow)
    exact quiet_of_relabel (hrule _) (by decide) _
      (List.forall_mem_cons.2 ⟨hcall, List.forall_mem_singleton.2 hparams⟩)
  | true =>
    intro levels
    cases levels with
    | zero => exact reports_zero _ _ _
    | succ levels =>
      have hover := height_overNode name arguments window
      have hbelow := height_callNode name arguments
      have hc := (hcall levels).mono
        fun (hn : (overNode name arguments window).height ≤ levels + 1) => by omega
      have hl := (hlist levels).mono
        fun (hn : (overNode name arguments window).height ≤ levels + 1) => by omega
      have hw := (hwindow levels).mono
        fun (hn : (overNode name arguments window).height ≤ levels + 1) => by omega
      cases hmatch : (overNode name arguments window).matchOver with
      | rebuild m =>
        obtain ⟨i, rfl, -⟩ := of_matchOver_overNode hmatch
        rw [contribution_overNode_of_rebuild henabled hmatch]
        exact (((hl.under _).under _).andThen (hw.under _)).under _
      | delegate reason =>
        rw [contribution_overNode_of_delegate henabled hmatch]
        exact (hc.andThen (hw.under _)).under _

theorem quiet_of_grammatical {n : Node} (h : n.Grammatical) : (standard config).Reports n [] := by
  induction h with
  | plain hover hraw a _ ih => exact quiet_of_relabel (ruleFor_standard_of_ne hover config) hraw a ih
  | callOver _ _ _ ihcall ihlist ihwindow => exact quiet_overNode ihcall ihlist ihwindow

/-! ## Scripts -/

/-- The findings on a statement of a script: one if it is kept as text. -/
def statementFindings (n : Node) : List Diagnostic :=
  if n.kind = "raw-statement" then
    [{ severity := .info
       code := "RAW_STATEMENT"
       message := "statement copied as text without conversion"
       nodeKind? := some "raw-statement" }]
  else []

theorem statementFindings_of_raw {n : Node} (h : n.kind = SourceKind.rawStatement.label) :
    statementFindings n = [Diagnostic.rawStatement SourceKind.rawStatement.label] := if_pos h

theorem statementFindings_of_ne {n : Node} (h : n.kind ≠ SourceKind.rawStatement.label) :
    statementFindings n = [] := if_neg h

theorem reports_statement (config : Config) (s : Statement) :
    (standard config).Reports s.node (statementFindings s.node) := by
  rcases s.node_eq_raw_or_grammatical with h | h
  · have hnode : s.node = Node.mk SourceKind.rawStatement.label s.node.attributes [] := by
      rw [h]
      rfl
    have hrule := ruleFor_standard_of_ne (k := .rawStatement) (by decide) config
    have hraw := reports_of_relabel (n := s.node) (d := fun _ => []) (by rw [hnode]; exact hrule)
    rw [hnode, Node.children_mk, Rule.relabelFindings_rawStatement] at hraw
    rw [hnode, statementFindings_of_raw (Node.kind_mk _ _ _)]
    exact hraw (List.forall_mem_nil _)
  · rw [statementFindings_of_ne h.kind_ne_rawStatement]
    exact quiet_of_grammatical h

theorem flatMap_statementFindings (ns : List Node) :
    ns.flatMap statementFindings =
      (ns.filter fun n => n.kind = "raw-statement").map fun _ =>
        ⟨.info, "RAW_STATEMENT", "statement copied as text without conversion", some "raw-statement"⟩ := by
  induction ns with
  | nil => rfl
  | cons n rest ih =>
    rw [List.flatMap_cons, ih, statementFindings, List.filter_cons]
    by_cases h : n.kind = "raw-statement" <;> simp [h]

theorem reports_scriptNode (config : Config) (statements : List Statement) :
    (standard config).Reports (scriptNode statements)
      ((scriptNode statements).children.flatMap statementFindings) := by
  have hrule := ruleFor_standard_of_ne (k := .script) (by decide) config
  refine reports_of_relabel (n := scriptNode statements) hrule ?_
  exact List.forall_mem_map.2 fun s _ => reports_statement config s

/-- Under all settings the conversion of a script is stopped by the limit on nesting, if it is nested
more deeply than that, or by nothing, and then it reports each statement that is kept as text, in
order, and nothing else. -/
theorem convertStatements_outcome (config : Config) (statements : List Statement) :
    ∃ cv, ofConfig config = .ok cv ∧
      match cv.convertStatements statements with
      | .error e =>
        config.maxDepth < (scriptNode statements).height ∧
          ∃ kind, e = .depthLimitExceeded kind config.maxDepth
      | .ok doc =>
        doc.diagnostics =
          ((scriptNode statements).children.filter fun n => n.kind = "raw-statement").map (fun _ =>
            { severity := .info
              code := "RAW_STATEMENT"
              message := "statement copied as text without conversion"
              nodeKind? := some "raw-statement" }) ∧
        ∀ d ∈ doc.diagnostics, d.code ≠ "UNMAPPED_NODE_KIND" := by
  refine ⟨standard config, ofConfig_eq config, ?_⟩
  have h := reports_scriptNode config statements config.maxDepth
  rw [flatMap_statementFindings] at h
  rw [convertStatements]
  cases herror : ((standard config).contribution config.maxDepth (scriptNode statements)).error? with
  | some e =>
    rw [convertDocument_of_error herror]
    simp only [Contribution.Reports, herror] at h
    exact ⟨Nat.lt_of_not_le h.1, h.2⟩
  | none =>
    rw [convertDocument_of_success herror]
    simp only [Contribution.Reports, herror] at h
    refine ⟨h, ?_⟩
    rw [config_standard, h]
    exact List.forall_mem_map.2 fun _ _ => by decide

end Conversion
end DialectConversion
