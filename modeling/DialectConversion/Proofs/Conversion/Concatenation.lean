import DialectConversion.Conversion.Script
import DialectConversion.Proofs.Conversion.Dispatch
import DialectConversion.Proofs.Rendering.Parts

/-! Scripts that are put together from two. The statements of a script are converted one after the
other, and what was converted before leaves no trace in what comes after: the whole is converted when
both parts are, and then it is the two results one behind the other, in its tree, its findings and its
text; otherwise it fails as the first part that fails. -/
namespace DialectConversion
set_option autoImplicit false
open Sql
open Text (joined trailed)

/-! ## Texts that are joined where they are not empty -/

namespace Text

theorem joined_append (separator : String) {first second : List String} (hfirst : first ≠ [])
    (hsecond : second ≠ []) :
    joined separator (first ++ second) = joined separator first ++ separator ++ joined separator second := by
  obtain ⟨s, first, rfl⟩ := List.exists_cons_of_ne_nil hfirst
  obtain ⟨t, second, rfl⟩ := List.exists_cons_of_ne_nil hsecond
  rw [List.cons_append, joined_cons, joined_cons, joined_cons, trailed_append, trailed]
  simp only [String.append_assoc]

theorem joined_ne_empty (separator : String) {texts : List String} (hne : texts ≠ [])
    (h : ∀ s ∈ texts, s ≠ "") : joined separator texts ≠ "" := by
  obtain ⟨s, texts, rfl⟩ := List.exists_cons_of_ne_nil hne
  rw [joined_cons]
  intro hempty
  exact h s List.mem_cons_self (String.append_eq_empty_iff.1 hempty).1

/-- The texts that are not empty, with the separator between neighbours. -/
def joinedPresent (separator : String) (texts : List String) : String :=
  joined separator (texts.filter fun s => !s.isEmpty)

theorem joinedPresent_eq_empty_iff (separator : String) (texts : List String) :
    joinedPresent separator texts = "" ↔ texts.filter (fun s => !s.isEmpty) = [] := by
  unfold joinedPresent
  constructor
  · intro hempty
    by_contra hne
    refine joined_ne_empty separator hne (fun s hs => ?_) hempty
    simpa using (List.mem_filter.1 hs).2
  · intro h
    rw [h]
    rfl

/-- Of two runs of texts the separator only stands between those that are not empty as a whole. -/
theorem joinedPresent_append (separator : String) (xs ys : List String) :
    joinedPresent separator (xs ++ ys) =
      if joinedPresent separator xs = "" then joinedPresent separator ys
      else if joinedPresent separator ys = "" then joinedPresent separator xs
      else joinedPresent separator xs ++ separator ++ joinedPresent separator ys := by
  simp only [joinedPresent_eq_empty_iff]
  unfold joinedPresent
  rw [List.filter_append]
  split
  · rename_i hxs
    rw [hxs, List.nil_append]
  · split
    · rename_i hys
      rw [hys, List.append_nil]
    · rename_i hxs hys
      exact joined_append separator hxs hys

end Text

namespace Conversion

/-! ## Converted scripts -/

/-- The converted document with the given statements. -/
def scriptDocument (statements : List Node) : Node :=
  Node.branch TargetKind.document.label [Node.branch TargetKind.script.label statements]

theorem render_scriptDocument (statements : List Node) :
    (scriptDocument statements).render = Text.joinedPresent ";\n" (statements.map Node.render) := by
  rw [scriptDocument, Node.render_document_singleton, Node.branch, Node.render_mk, TargetKind.ofLabel?_label]
  change joined ";\n" (List.filter _ ((statements.map Node.part).map Render.Part.text)) = _
  rw [List.map_map]
  rfl

/-- What statements contribute one after the other when so many levels are left for each of them. -/
def statementsContribution (cv : Conversion) (levels : Nat) (statements : List Statement) : Contribution :=
  Contribution.inOrder (statements.map fun s => cv.contribution levels s.node)

theorem statementsContribution_append (cv : Conversion) (levels : Nat) (xs ys : List Statement) :
    cv.statementsContribution levels (xs ++ ys) =
      (cv.statementsContribution levels xs).andThen (cv.statementsContribution levels ys) := by
  rw [statementsContribution, List.map_append, Contribution.inOrder_append]
  rfl

theorem contribution_scriptNode (config : Config) (levels : Nat) (statements : List Statement) :
    (standard config).contribution (levels + 1) (scriptNode statements) =
      let below := (standard config).statementsContribution levels statements
      ⟨[Node.branch TargetKind.script.label below.nodes], below.findings, below.error?⟩ := by
  have hrule : (standard config).ruleFor (scriptNode statements).kind = .relabel :=
    ruleFor_standard_of_ne (k := .script) (by decide) config
  have hlabel : (mapLabel? (scriptNode statements).kind).getD (scriptNode statements).kind =
      TargetKind.script.label := by
    rw [show (scriptNode statements).kind = SourceKind.script.label from rfl, mapLabel?_label]
    rfl
  have hchildren : (scriptNode statements).children = statements.map Statement.node := rfl
  have hfindings : Rule.relabelFindings (scriptNode statements) = [] :=
    Rule.relabelFindings_label (by decide) _ _
  rw [contribution_relabel hrule, hlabel, hchildren, hfindings, List.map_map]
  rfl

theorem convertStatements_succ {config : Config} {levels : Nat} (hlevels : config.maxDepth = levels + 1)
    (statements : List Statement) :
    (standard config).convertStatements statements =
      let below := (standard config).statementsContribution levels statements
      match below.error? with
      | some e => .error e
      | none => .ok ⟨scriptDocument below.nodes, below.findings⟩ := by
  rw [convertStatements, convertDocument_eq, config_standard, hlevels, contribution_scriptNode]
  rfl

theorem convertStatements_zero {config : Config} (hlevels : config.maxDepth = 0)
    (statements : List Statement) :
    (standard config).convertStatements statements =
      .error (.depthLimitExceeded SourceKind.script.label 0) := by
  rw [convertStatements, convertDocument_eq, config_standard, hlevels, contribution_zero,
    config_standard, hlevels]
  rfl

/-- Under all settings a script in two parts is converted when both parts are. It then has the statements
of the first part and behind them those of the second, and the findings in the same order; its text is
that of both parts with a semicolon and a line break between them, or that of one part where the other one
is empty. Otherwise it fails with the error of the first part, or of the second one if the first part is
converted. -/
theorem convertStatements_append (config : Config) (xs ys : List Statement) :
    ∃ cv, ofConfig config = .ok cv ∧
      match cv.convertStatements xs, cv.convertStatements ys with
      | .ok first, .ok second => ∃ ks ls,
          first.root = scriptDocument ks ∧ second.root = scriptDocument ls ∧
          cv.convertStatements (xs ++ ys) =
            .ok ⟨scriptDocument (ks ++ ls), first.diagnostics ++ second.diagnostics⟩ ∧
          (scriptDocument (ks ++ ls)).render =
            if first.root.render = "" then second.root.render
            else if second.root.render = "" then first.root.render
            else first.root.render ++ ";\n" ++ second.root.render
      | .error e, _ => cv.convertStatements (xs ++ ys) = .error e
      | .ok _, .error e => cv.convertStatements (xs ++ ys) = .error e := by
  refine ⟨standard config, ofConfig_eq config, ?_⟩
  cases hlevels : config.maxDepth with
  | zero =>
    simp only [convertStatements_zero hlevels]
  | succ levels =>
    simp only [convertStatements_succ hlevels, statementsContribution_append]
    cases hxs : ((standard config).statementsContribution levels xs).error? with
    | some e => simp only [Contribution.andThen_of_error hxs, hxs]
    | none =>
      simp only [Contribution.andThen_of_success hxs]
      cases hys : ((standard config).statementsContribution levels ys).error? with
      | some e => simp only
      | none =>
        refine ⟨_, _, rfl, rfl, rfl, ?_⟩
        simp only [render_scriptDocument, List.map_append, Text.joinedPresent_append]

end Conversion
end DialectConversion
