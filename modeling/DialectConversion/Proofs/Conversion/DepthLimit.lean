import DialectConversion.Proofs.Conversion.Dispatch

/-! Conversions that differ in nothing but their limit on nesting. Under the lower limit a conversion is
stopped by it, or does exactly what it does under the higher one; and the depth at which a node is met
counts like a limit that is lower by as much. -/
namespace DialectConversion
set_option autoImplicit false

/-- The error with the given limit in place of the one it names. -/
def ConversionError.namingLimit (limit : Nat) : ConversionError → ConversionError
  | missingSubstructure kind part => missingSubstructure kind part
  | depthLimitExceeded kind _ => depthLimitExceeded kind limit

/-- What a step leaves behind, with the given limit named in its error. -/
def Progress.namingLimit (limit : Nat) (r : Progress) : Progress :=
  { r with error? := r.error?.map (·.namingLimit limit) }

namespace Step

variable {limit : Nat} {s s' t t' : Step}

/-! ## Steps that agree up to a limit -/

/-- The limit stops the first step, or no limit does and the second step does the same. -/
def AgreeUpTo (limit : Nat) (s t : Step) : Prop :=
  ∀ p, (∃ kind, (s p).error? = some (.depthLimitExceeded kind limit)) ∨
    (s p = t p ∧ ∀ kind other, (s p).error? ≠ some (.depthLimitExceeded kind other))

namespace AgreeUpTo

theorem andThen (hs : AgreeUpTo limit s s') (ht : AgreeUpTo limit t t') :
    AgreeUpTo limit (s.andThen t) (s'.andThen t') := by
  intro p
  rcases hs p with ⟨kind, hstopped⟩ | ⟨hsame, hnot⟩
  · rw [andThen_of_error hstopped]
    exact .inl ⟨kind, hstopped⟩
  · cases h : (s p).error? with
    | some e =>
      have h' : (s' p).error? = some e := by rw [← hsame, h]
      rw [andThen_of_error h, andThen_of_error h']
      exact .inr ⟨hsame, hnot⟩
    | none =>
      have h' : (s' p).error? = none := by rw [← hsame, h]
      rw [andThen_of_success h, andThen_of_success h', ← hsame]
      exact ht (s p).pass

theorem under (child : Node) (hs : AgreeUpTo limit s s') :
    AgreeUpTo limit (Step.under child s) (Step.under child s') := by
  intro p
  rcases hs { p with parent := child } with hstopped | ⟨hsame, hnot⟩
  · exact .inl hstopped
  · refine .inr ⟨?_, hnot⟩
    simp only [Step.under, hsame]

theorem deeper (hs : AgreeUpTo limit s s') : AgreeUpTo limit (Step.deeper s) (Step.deeper s') := by
  intro p
  rcases hs { p with depth := p.depth + 1 } with hstopped | ⟨hsame, hnot⟩
  · exact .inl hstopped
  · refine .inr ⟨?_, hnot⟩
    simp only [Step.deeper, hsame]

theorem congruence (limit : Nat) : Congruence (AgreeUpTo limit) where
  done _ := .inr ⟨rfl, nofun⟩
  missing _ _ _ := .inr ⟨rfl, nofun⟩
  report _ _ := .inr ⟨rfl, nofun⟩
  andThen := andThen
  under := under

end AgreeUpTo

/-! ## Steps that agree but for the limit they name -/

/-- The first step does what the second does, and names the given limit where the limit stops it. -/
def AgreeNaming (limit : Nat) (s t : Step) : Prop :=
  ∀ p, s p = (t p).namingLimit limit

namespace AgreeNaming

theorem andThen (hs : AgreeNaming limit s s') (ht : AgreeNaming limit t t') :
    AgreeNaming limit (s.andThen t) (s'.andThen t') := by
  intro p
  have herror : (s p).error? = (s' p).error?.map (·.namingLimit limit) := by
    rw [hs p]
    rfl
  cases h : (s' p).error? with
  | some e =>
    rw [h, Option.map_some] at herror
    rw [andThen_of_error herror, andThen_of_error h, hs p]
  | none =>
    rw [h, Option.map_none] at herror
    have hpass : (s p).pass = (s' p).pass := by
      rw [hs p]
      rfl
    rw [andThen_of_success herror, andThen_of_success h, hpass, ht]

theorem under (child : Node) (hs : AgreeNaming limit s s') :
    AgreeNaming limit (Step.under child s) (Step.under child s') := by
  intro p
  simp only [Step.under, hs { p with parent := child }, Progress.namingLimit, Option.isNone_map]

theorem deeper (hs : AgreeNaming limit s s') :
    AgreeNaming limit (Step.deeper s) (Step.deeper s') := by
  intro p
  simp only [Step.deeper, hs { p with depth := p.depth + 1 }, Progress.namingLimit]

theorem congruence (limit : Nat) : Congruence (AgreeNaming limit) where
  done _ := rfl
  missing _ _ _ := rfl
  report _ _ := rfl
  andThen := andThen
  under := under

end AgreeNaming

/-- A step whose contribution does not depend on the state does not depend on the depth either. -/
theorem Attaches.apply_at_depth {c : Contribution} (h : s.Attaches c) (parent : Node)
    (diagnostics : List Diagnostic) (depth : Nat) :
    s ⟨parent, diagnostics, depth⟩ =
      { s ⟨parent, diagnostics, 0⟩ with
        pass := { (s ⟨parent, diagnostics, 0⟩).pass with depth := depth } } := by
  have hstep (p : Pass) :
      s p = ⟨c.appliedTo p, c.error?, if c.error?.isNone then some p.parent.children.length else none⟩ := by
    rw [← h.pass p, ← h.returned? p, ← h.error? p]
  rw [hstep, hstep]
  rfl

end Step

namespace Conversion

/-- The conversion with the given limit in place of its own. -/
def withLimit (cv : Conversion) (limit : Nat) : Conversion :=
  { cv with config := { cv.config with maxDepth := limit } }

theorem ruleFor_withLimit (cv : Conversion) (limit : Nat) (kind : String) :
    (cv.withLimit limit).ruleFor kind = cv.ruleFor kind := rfl

theorem convertWithin_agreeUpTo (cv : Conversion) (limit limit' ahead levels : Nat) (source : Node) :
    Step.AgreeUpTo limit ((cv.withLimit limit).convertWithin levels source)
      ((cv.withLimit limit').convertWithin (levels + ahead) source) :=
  convertWithin_related (Step.AgreeUpTo.congruence limit) (fun _ _ => Step.AgreeUpTo.deeper) ahead
    (fun n _ => .inl ⟨n.kind, rfl⟩) (fun n _ _ => by rw [ruleFor_withLimit, ruleFor_withLimit]) levels

theorem convertWithin_agreeNaming (cv : Conversion) (limit limit' levels : Nat) (source : Node) :
    Step.AgreeNaming limit ((cv.withLimit limit).convertWithin levels source)
      ((cv.withLimit limit').convertWithin levels source) :=
  convertWithin_related (Step.AgreeNaming.congruence limit) (fun _ _ => Step.AgreeNaming.deeper) 0
    (fun _ _ => by rfl) (fun n _ _ => by rw [ruleFor_withLimit, ruleFor_withLimit]) levels

theorem convertDocument_eq_error_iff {cv : Conversion} {source : Node} {e : ConversionError} :
    cv.convertDocument source = .error e ↔
      (cv.convertNode source ⟨Node.leaf TargetKind.document.label, [], 0⟩).error? = some e := by
  cases h : (cv.convertNode source ⟨Node.leaf TargetKind.document.label, [], 0⟩).error? <;>
    simp [convertDocument, h]

theorem convertDocument_upTo (cv : Conversion) (source : Node) (limit ahead : Nat) :
    (∃ kind, (cv.withLimit limit).convertDocument source = .error (.depthLimitExceeded kind limit)) ∨
    ((cv.withLimit limit).convertDocument source = (cv.withLimit (limit + ahead)).convertDocument source ∧
      ∀ kind other, (cv.withLimit limit).convertDocument source ≠ .error (.depthLimitExceeded kind other)) := by
  let start : Pass := ⟨Node.leaf TargetKind.document.label, [], 0⟩
  rcases convertWithin_agreeUpTo cv limit (limit + ahead) ahead limit source start with
    ⟨kind, hstopped⟩ | ⟨hsame, hnot⟩
  · exact .inl ⟨kind, convertDocument_eq_error_iff.2 hstopped⟩
  · have hnode : (cv.withLimit limit).convertNode source start =
        (cv.withLimit (limit + ahead)).convertNode source start := hsame
    refine .inr ⟨?_, fun kind other h => hnot kind other (convertDocument_eq_error_iff.1 h)⟩
    unfold convertDocument
    rw [hnode]

theorem convertNode_at_depth (cv : Conversion) (source : Node) (limit : Nat) (parent : Node)
    (diagnostics : List Diagnostic) (depth : Nat) :
    (cv.withLimit limit).convertNode source ⟨parent, diagnostics, depth⟩ =
      let atZero := (cv.withLimit (limit - depth)).convertNode source ⟨parent, diagnostics, 0⟩
      { pass := { atZero.pass with depth := depth }
        error? := atZero.error?.map (·.namingLimit limit)
        returned? := atZero.returned? } := by
  have hnaming := convertWithin_agreeNaming cv limit (limit - depth) (limit - depth) source
  have hdepth := (attaches_contribution (cv.withLimit (limit - depth)) (limit - depth) source).apply_at_depth
    parent diagnostics depth
  show (cv.withLimit limit).convertWithin (limit - depth) source ⟨parent, diagnostics, depth⟩ = _
  rw [hnaming, hdepth]
  rfl

/-- Raising the limit changes nothing but what the lower limit refuses: documents and missing parts stay
what they are, and what is too deep for the higher limit is too deep for the lower one. A node that is
met at some depth is converted as at depth zero under a limit that is lower by that depth. -/
theorem convertDocument_of_limit_le (cv : Conversion) (source : Node) {limit limit' : Nat}
    (hle : limit ≤ limit') :
    (∀ doc, (cv.withLimit limit).convertDocument source = .ok doc →
      (cv.withLimit limit').convertDocument source = .ok doc) ∧
    (∀ kind part, (cv.withLimit limit).convertDocument source = .error (.missingSubstructure kind part) →
      (cv.withLimit limit').convertDocument source = .error (.missingSubstructure kind part)) ∧
    (∀ kind named, (cv.withLimit limit').convertDocument source = .error (.depthLimitExceeded kind named) →
      ∃ first, (cv.withLimit limit).convertDocument source = .error (.depthLimitExceeded first limit)) ∧
    ∀ parent diagnostics depth,
      (cv.withLimit limit).convertNode source ⟨parent, diagnostics, depth⟩ =
        let atZero := (cv.withLimit (limit - depth)).convertNode source ⟨parent, diagnostics, 0⟩
        { pass := { atZero.pass with depth := depth }
          error? := atZero.error?.map (·.namingLimit limit)
          returned? := atZero.returned? } := by
  have hupTo := convertDocument_upTo cv source limit (limit' - limit)
  rw [Nat.add_sub_cancel' hle] at hupTo
  refine ⟨fun doc hdoc => ?_, fun kind part hmissing => ?_, fun kind named hdeep => ?_,
    convertNode_at_depth cv source limit⟩
  · rcases hupTo with ⟨kind, hstopped⟩ | ⟨hsame, -⟩
    · rw [hstopped] at hdoc
      exact absurd hdoc nofun
    · rw [← hsame, hdoc]
  · rcases hupTo with ⟨kind, hstopped⟩ | ⟨hsame, -⟩
    · rw [hstopped] at hmissing
      exact absurd hmissing nofun
    · rw [← hsame, hmissing]
  · rcases hupTo with hstopped | ⟨hsame, hnot⟩
    · exact hstopped
    · exact absurd (hsame.trans hdeep) (hnot kind named)

/-- A call that is rebuilt from its OVER parameters, and has none. -/
def firstValueOverNothing : Node :=
  SourceKind.overExpression.branchNode
    [callNode [⟨"first_value", none⟩] [], SourceKind.overExpressionParams.branchNode []]

/-- Between the limits 2 and 4: a document and a missing part on level 2, and a node on level 5, which is too
deep for both. Under limit 4 a node met at depth 3 still finds the missing part, at depth 4 no more. -/
theorem convertDocument_of_limit_le_nested :
    let cv := standard {}
    let grouped (n : Node) := n.nestedUnder SourceKind.parenthesizedExpression.label
    let noParameter : ConversionError :=
      .missingSubstructure SourceKind.overExpression.label "child under the OVER parameters"
    2 ≤ 4 ∧
    (cv.withLimit 4).convertDocument (grouped (Node.leaf SourceKind.literal.label) 1) =
      .ok ⟨Node.branch TargetKind.document.label [Node.branch TargetKind.parenthesizedExpression.label
        [Node.leaf TargetKind.literal.label]], []⟩ ∧
    (cv.withLimit 4).convertDocument (grouped firstValueOverNothing 1) = .error noParameter ∧
    (∃ first, (cv.withLimit 2).convertDocument (grouped firstValueOverNothing 4) =
      .error (.depthLimitExceeded first 2)) ∧
    ((cv.withLimit 4).convertNode firstValueOverNothing ⟨Node.leaf "", [], 3⟩).error? = some noParameter ∧
    ((cv.withLimit 4).convertNode firstValueOverNothing ⟨Node.leaf "", [], 4⟩).error? =
      some (.depthLimitExceeded SourceKind.overExpression.label 4) := by
  intro cv grouped noParameter
  have hle : 2 ≤ 4 := by decide
  refine ⟨hle, ?_, ?_, ?_, ?_, ?_⟩
  · exact (convertDocument_of_limit_le cv _ hle).1 _ (by decide +kernel)
  · exact (convertDocument_of_limit_le cv _ hle).2.1 _ _ (by decide +kernel)
  · have hdeep : (cv.withLimit 4).convertDocument (grouped firstValueOverNothing 4) =
        .error (.depthLimitExceeded SourceKind.overExpression.label 4) := by decide +kernel
    exact (convertDocument_of_limit_le cv _ hle).2.2.1 _ _ hdeep
  · rw [(convertDocument_of_limit_le cv _ (Nat.le_refl 4)).2.2.2]
    decide +kernel
  · rw [(convertDocument_of_limit_le cv _ (Nat.le_refl 4)).2.2.2]
    decide +kernel

end Conversion
end DialectConversion
