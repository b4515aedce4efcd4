import DialectConversion.Proofs.Conversion.Rebuilding
import DialectConversion.Proofs.Text.UpperCase

/-! Under which names over-expressions are rebuilt. A name that is not quoted is folded to upper case, so
that it is rebuilt in the spelling of the list; ten letters beyond ASCII are folded into ASCII, and no other
spelling gets in through them than those that spell the name out. A quoted name is compared as it is
written, up to the case of ASCII letters, and keeps its spelling. -/
namespace DialectConversion
set_option autoImplicit false

/-! ## The list of rebuilt aggregates -/

theorem isRebuiltAggregate_iff (canonical : String) :
    isRebuiltAggregate canonical = true ↔
      ∃ name ∈ rebuiltAggregates, Text.equalIgnoringAsciiCase name canonical = true :=
  List.any_eq_true

theorem isRebuiltAggregate_eq (canonical : String) :
    isRebuiltAggregate canonical = Text.equalIgnoringAsciiCase "FIRST_VALUE" canonical :=
  Bool.or_false _

namespace Identifier

theorem canonical_of_not_quoted {i : Identifier} (h : i.quoted = false) : i.canonical = Text.upper i.text := by
  rw [canonical, h]
  rfl

theorem canonical_of_quoted {i : Identifier} (h : i.quoted = true) : i.canonical = i.text := by
  rw [canonical, h]
  rfl

theorem canonical_eq_of_isRebuiltAggregate {i : Identifier} (hquoted : i.quoted = false)
    (h : isRebuiltAggregate i.canonical = true) : i.canonical = "FIRST_VALUE" := by
  rw [isRebuiltAggregate_eq] at h
  rw [canonical_of_not_quoted hquoted] at h ⊢
  exact Text.upper_eq_of_equalIgnoringAsciiCase (by simp) h

theorem isRebuiltAggregate_canonical {i : Identifier} (hquoted : i.quoted = false) :
    isRebuiltAggregate i.canonical =
      Text.equalIgnoringAsciiCase (Text.spelledOut i.text) "first_value" := by
  have hlower : "FIRST_VALUE".toList.map Char.toLower = "first_value".toList.map Char.toLower := by decide
  rw [isRebuiltAggregate_eq, canonical_of_not_quoted hquoted,
    Text.equalIgnoringAsciiCase_upper (by simp)]
  unfold Text.equalIgnoringAsciiCase
  rw [hlower, Bool.eq_iff_iff, beq_iff_eq, beq_iff_eq, eq_comm]

end Identifier

/-! ## Decisions -/

namespace Node

/-- The identifier that names the function of an over-expression of two children, if its name has a single
part. It is written in a name part or in the text of the function. -/
def functionPart? (source : Node) : Option Identifier :=
  match source.children with
  | [function, _] => function.qualifiedName?.bind QualifiedName.single?
  | _ => none

theorem matchOver_of_functionPart? {source : Node} {part : Identifier}
    (h : source.functionPart? = some part) : ∃ function params, source.children = [function, params] ∧
      source.matchOver = if isRebuiltAggregate part.canonical
        then .rebuild ⟨part.canonical, function, params⟩ else .delegate .unsupported := by
  unfold functionPart? at h
  split at h
  · rename_i function params hchildren
    obtain ⟨name, hname, hsingle⟩ := Option.bind_eq_some_iff.1 h
    refine ⟨function, params, hchildren, ?_⟩
    simp only [matchOver, hchildren, hname, hsingle]
  · cases h

theorem functionPart?_of_matchOver {source : Node} {m : MatchedOver} (h : source.matchOver = .rebuild m) :
    ∃ part, source.functionPart? = some part ∧ isRebuiltAggregate part.canonical = true ∧
      m.functionName = part.canonical := by
  have hchildren := children_of_matchOver h
  unfold matchOver at h
  simp only [hchildren] at h
  split at h
  · exact absurd h nofun
  · rename_i name hname
    split at h
    · exact absurd h nofun
    · rename_i part hsingle
      have hpart : source.functionPart? = some part := by
        simp only [functionPart?, hchildren, hname, Option.bind_some, hsingle]
      split at h
      · rename_i hrebuilt
        exact ⟨part, hpart, hrebuilt, by rw [← OverMatch.rebuild.inj h]⟩
      · exact absurd h nofun

end Node

/-- Where an over-expression is rebuilt, its function is named by a single part that is in the list up to the
case of ASCII letters. If the part is not quoted the rebuilt name is the one in the list, and if it is quoted
the rebuilt name is the text in the quotes; the target carries this name. A quoted name in a spelling that
differs in more than the case of ASCII letters is not rebuilt. -/
theorem rebuilt_spelling (source : Node) :
    (∀ m, source.matchOver = .rebuild m → ∃ part, source.functionPart? = some part ∧
      (∃ name ∈ rebuiltAggregates, Text.equalIgnoringAsciiCase name m.functionName = true) ∧
      (part.quoted = false → m.functionName ∈ rebuiltAggregates) ∧
      (part.quoted = true → m.functionName = part.text) ∧
      ∀ (cv : Conversion) (p : Pass), (cv.convertBy .rebuildAggregate source p).error? = none →
        ∃ a b, (cv.convertBy .rebuildAggregate source p).pass.parent =
          p.parent.withChild (Rule.rebuiltOver m.functionName a b)) ∧
    ∀ part, source.functionPart? = some part → part.quoted = true →
      (∀ name ∈ rebuiltAggregates, Text.equalIgnoringAsciiCase name part.text = false) →
      source.matchOver = .delegate .unsupported := by
  constructor
  · intro m hmatch
    obtain ⟨part, hpart, hrebuilt, hname⟩ := Node.functionPart?_of_matchOver hmatch
    rw [hname]
    refine ⟨part, hpart, (isRebuiltAggregate_iff _).1 hrebuilt, ?_, ?_, ?_⟩
    · intro hquoted
      rw [Identifier.canonical_eq_of_isRebuiltAggregate hquoted hrebuilt]
      exact List.mem_cons_self
    · exact Identifier.canonical_of_quoted
    · intro cv p hsuccess
      rw [← hname]
      cases hparts : m.parts? with
      | error missing =>
        rw [Conversion.convertBy_rebuildAggregate_of_missing cv hmatch hparts] at hsuccess
        exact absurd hsuccess nofun
      | ok found =>
        obtain ⟨arguments, parameter⟩ := found
        have hrun := Conversion.convertBy_rebuildAggregate_of_parts cv hmatch hparts p
        obtain ⟨a, b, -, -, hresult⟩ := hrun.2 hsuccess
        exact ⟨a, b, by rw [hresult]⟩
  · intro part hpart hquoted hother
    obtain ⟨function, params, -, hmatch⟩ := Node.matchOver_of_functionPart? hpart
    have hrefused : isRebuiltAggregate part.canonical ≠ true := by
      rw [Identifier.canonical_of_quoted hquoted]
      intro hrebuilt
      obtain ⟨name, hname, hequal⟩ := (isRebuiltAggregate_iff _).1 hrebuilt
      rw [hother name hname] at hequal
      exact absurd hequal nofun
    rw [hmatch, if_neg hrefused]

/-- A call over a window of a function with a single name part. -/
def overOfPart (part : Sql.Ident) : Node := overNode [part] [] (Node.leaf SourceKind.analyticClause.label)

theorem rebuilt_spelling_in_quotes :
    let source := overOfPart ⟨"First_Value", some '"'⟩
    let other := overOfPart ⟨"first value", some '"'⟩
    let p : Pass := ⟨Node.leaf TargetKind.document.label, [], 0⟩
    (∃ a b, ((⟨{}, {}⟩ : Conversion).convertBy .rebuildAggregate source p).pass.parent =
        p.parent.withChild (Rule.rebuiltOver "First_Value" a b)) ∧
      other.matchOver = .delegate .unsupported := by
  intro source other p
  have hmatch : source.matchOver = .rebuild ⟨"First_Value", callNode [⟨"First_Value", some '"'⟩] [],
      SourceKind.overExpressionParams.branchNode [Node.leaf SourceKind.analyticClause.label]⟩ := by
    decide +kernel
  have hsuccess : ((⟨{}, {}⟩ : Conversion).convertBy .rebuildAggregate source p).error? = none := by
    decide +kernel
  have hpart : other.functionPart? = some ⟨"first value", true⟩ := by decide +kernel
  obtain ⟨-, -, -, -, -, hresult⟩ := (rebuilt_spelling source).1 _ hmatch
  exact ⟨hresult ⟨{}, {}⟩ p hsuccess, (rebuilt_spelling other).2 _ hpart rfl (by decide +kernel)⟩

/-- Quotes keep a spelling of the name that is not in the list, and the call is rebuilt all the same. -/
theorem not_forall_functionName_mem :
    ¬ ∀ (source : Node) (m : MatchedOver), source.kind = SourceKind.overExpression.label →
      source.matchOver = .rebuild m → m.functionName ∈ rebuiltAggregates := by
  intro h
  let source := overOfPart ⟨"first_value", some '"'⟩
  have hmatch : source.matchOver = .rebuild ⟨"first_value", callNode [⟨"first_value", some '"'⟩] [],
      SourceKind.overExpressionParams.branchNode [Node.leaf SourceKind.analyticClause.label]⟩ := by
    decide +kernel
  have hname : "first_value" ∈ rebuiltAggregates := h source _ rfl hmatch
  exact absurd hname (by decide)

/-! ## Names of a single part without quotes -/

theorem Node.qualifiedName?_of_part {function part : Node} {i : Identifier}
    (hparts : function.nameParts = [part]) (hpart : part.partIdentifier? = some i) :
    function.qualifiedName? = some ⟨[i], List.cons_ne_nil i []⟩ := by
  simp only [qualifiedName?, hparts, List.mapM_cons, List.mapM_nil, hpart]
  rfl

/-- A function that is named by one part without quotes is rebuilt, in the spelling of the list, exactly if
the part spells the name out up to the case of ASCII letters; under all other spellings it is left to the
plain treatment. -/
theorem matchOver_unquoted {source function params part : Node} {n : String}
    (hchildren : source.children = [function, params]) (hparts : function.nameParts = [part])
    (htext : part.attribute? AttributeName.text = some n)
    (hquoted : part.attribute? AttributeName.quoted ≠ some "true") :
    source.matchOver =
      if Text.equalIgnoringAsciiCase (Text.spelledOut n) "first_value" = true
      then .rebuild ⟨"FIRST_VALUE", function, params⟩ else .delegate .unsupported := by
  have hpart : part.partIdentifier? = some ⟨n, false⟩ := by
    rw [Node.partIdentifier?, htext, Option.map_some, decide_eq_false hquoted]
  have hsource : source.functionPart? = some ⟨n, false⟩ := by
    simp only [Node.functionPart?, hchildren, Node.qualifiedName?_of_part hparts hpart]
    rfl
  obtain ⟨function', params', hchildren', hmatch⟩ := Node.matchOver_of_functionPart? hsource
  obtain ⟨rfl, rfl⟩ : function = function' ∧ params = params' := by
    rw [hchildren, List.cons.injEq, List.cons.injEq] at hchildren'
    exact ⟨hchildren'.1, hchildren'.2.1⟩
  rw [hmatch, Identifier.isRebuiltAggregate_canonical rfl]
  split
  · rename_i hspelled
    rw [← Identifier.isRebuiltAggregate_canonical rfl] at hspelled
    rw [Identifier.canonical_eq_of_isRebuiltAggregate rfl hspelled]
  · rfl

theorem matchOver_unquoted_ligatures :
    let n := "\ufb01r\ufb06_Value"
    let source := overOfPart ⟨n, none⟩
    let function := callNode [⟨n, none⟩] []
    let params := SourceKind.overExpressionParams.branchNode [Node.leaf SourceKind.analyticClause.label]
    let part := Sql.Ident.node ⟨n, none⟩
    source.children = [function, params] ∧ function.nameParts = [part] ∧
      part.attribute? AttributeName.text = some n ∧
      part.attribute? AttributeName.quoted ≠ some "true" ∧
      source.matchOver = .rebuild ⟨"FIRST_VALUE", function, params⟩ := by
  intro n source function params part
  have hchildren : source.children = [function, params] := rfl
  have hparts : function.nameParts = [part] := nameParts_callNode _ _
  have htext : part.attribute? AttributeName.text = some n := by decide +kernel
  have hquoted : part.attribute? AttributeName.quoted ≠ some "true" := by decide +kernel
  have hspelled : Text.equalIgnoringAsciiCase (Text.spelledOut n) "first_value" = true := by decide +kernel
  have hmatch := matchOver_unquoted hchildren hparts htext hquoted
  rw [if_pos hspelled] at hmatch
  exact ⟨hchildren, hparts, htext, hquoted, hmatch⟩

/-- The dotless i is folded to the letter I, so the name is not only met in spellings that differ from it in
the case of ASCII letters. -/
theorem not_forall_rebuilt_iff_equalIgnoringAsciiCase :
    ¬ ∀ (n : String) (source function params part : Node),
      source.kind = SourceKind.overExpression.label → source.children = [function, params] →
      function.nameParts = [part] → part.attribute? AttributeName.text = some n →
      part.attribute? AttributeName.quoted ≠ some "true" →
      ((∃ m, source.matchOver = .rebuild m) ↔ Text.equalIgnoringAsciiCase n "first_value" = true) := by
  intro h
  let n := "f\u0131rst_value"
  let source := overOfPart ⟨n, none⟩
  let function := callNode [⟨n, none⟩] []
  let params := SourceKind.overExpressionParams.branchNode [Node.leaf SourceKind.analyticClause.label]
  have hmatch : source.matchOver = .rebuild ⟨"FIRST_VALUE", function, params⟩ := by decide +kernel
  have hiff := h n source function params (Sql.Ident.node ⟨n, none⟩) rfl rfl (nameParts_callNode _ _)
    (by decide +kernel) (by decide +kernel)
  exact absurd (hiff.1 ⟨_, hmatch⟩) (by decide +kernel)

end DialectConversion
