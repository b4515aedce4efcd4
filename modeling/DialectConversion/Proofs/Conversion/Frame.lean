import DialectConversion.Proofs.Conversion.Dispatch

/-! The conversion of a single node as its caller sees it. It is refused at the limit, and otherwise left
to the rule for its kind one level deeper. Whatever it is called on, it leaves that behind with at most
one more child and with more findings at the end; what is added, and the error if there is one, is
settled by the node and the depth alone. -/
namespace DialectConversion
set_option autoImplicit false

/-! ## Steps at one depth -/

namespace Step

/-- Two steps do the same wherever they begin at the given depth, and end there. -/
structure AgreeAt (depth : Nat) (s t : Step) : Prop where
  eq : ∀ p, p.depth = depth → s p = t p
  depth_eq : ∀ p, p.depth = depth → (s p).pass.depth = depth

namespace AgreeAt

variable {depth : Nat} {s t s' t' : Step}

theorem of_adds {c : Contribution} (h : s.Adds c) : AgreeAt depth s s where
  eq _ _ := rfl
  depth_eq p hp := by
    rw [h.pass]
    exact hp

theorem andThen (hs : AgreeAt depth s s') (ht : AgreeAt depth t t') :
    AgreeAt depth (s.andThen t) (s'.andThen t') where
  eq p hp := by
    unfold Step.andThen
    rw [← hs.eq p hp, ht.eq _ (hs.depth_eq p hp)]
  depth_eq p hp := by
    unfold Step.andThen
    split
    · exact hs.depth_eq p hp
    · exact ht.depth_eq _ (hs.depth_eq p hp)

theorem under (child : Node) (hs : AgreeAt depth s s') :
    AgreeAt depth (Step.under child s) (Step.under child s') where
  eq p hp := by
    have hinner := hs.eq { p with parent := child } hp
    simp only [Step.under, hinner]
  depth_eq p hp := hs.depth_eq { p with parent := child } hp

theorem congruence (depth : Nat) : Congruence (AgreeAt depth) where
  done := of_adds Adds.done
  missing _ _ := of_adds (Adds.fail _)
  report d := of_adds (Adds.report d)
  andThen := andThen
  under := under

end AgreeAt
end Step

namespace Conversion

theorem convertBy_eq_apply (cv : Conversion) (rule : Rule) (source : Node) (p : Pass) :
    cv.convertBy rule source p =
      rule.apply (cv.convertWithin (cv.config.maxDepth - p.depth)) source p := by
  have hbelow (n : Node) :
      Step.AgreeAt p.depth (cv.convertNode n) (cv.convertWithin (cv.config.maxDepth - p.depth) n) := by
    have hkept : Step.AgreeAt p.depth (cv.convertWithin (cv.config.maxDepth - p.depth) n)
        (cv.convertWithin (cv.config.maxDepth - p.depth) n) :=
      .of_adds (cv.attaches_contribution (cv.config.maxDepth - p.depth) n).toAdds
    have heq (q : Pass) (hq : q.depth = p.depth) :
        cv.convertNode n q = cv.convertWithin (cv.config.maxDepth - p.depth) n q := by
      rw [convertNode, hq]
    refine ⟨heq, fun q hq => ?_⟩
    rw [heq q hq]
    exact hkept.depth_eq q hq
  have hrule : Step.AgreeAt p.depth (cv.convertBy rule source)
      (rule.apply (cv.convertWithin (cv.config.maxDepth - p.depth)) source) :=
    Rule.apply_congr (Step.AgreeAt.congruence _) fun _ _ n _ => hbelow n
  exact hrule.eq p rfl

/-- A node is refused when as many nodes as the limit allows are being converted already. Otherwise it is
left to the rule for its kind, one level deeper, and so are the nodes that the rule converts. -/
theorem convertNode_eq (cv : Conversion) (source : Node) (p : Pass) :
    cv.convertNode source p =
      if cv.config.maxDepth ≤ p.depth then
        Step.fail (.depthLimitExceeded source.kind cv.config.maxDepth) p
      else Step.deeper (cv.convertBy (cv.ruleFor source.kind) source) p := by
  by_cases hp : cv.config.maxDepth ≤ p.depth
  · rw [if_pos hp, convertNode, Nat.sub_eq_zero_of_le hp]
    rfl
  · obtain ⟨levels, hlevels⟩ : ∃ levels, cv.config.maxDepth - p.depth = levels + 1 :=
      ⟨cv.config.maxDepth - p.depth - 1, by omega⟩
    have hleft : cv.config.maxDepth - (p.depth + 1) = levels := by omega
    have hrule := cv.convertBy_eq_apply (cv.ruleFor source.kind) source { p with depth := p.depth + 1 }
    rw [hleft] at hrule
    rw [if_neg hp, convertNode, hlevels, convertWithin]
    unfold Step.deeper
    rw [hrule]

/-- Converting a node at a given depth adds the same child and the same findings and ends in the same
error, whatever the node under construction and the findings were before. It adds one child and hands
that one back, or it stops with an error and with at most one child added; the depth is restored either
way. -/
theorem convertNode_frame (cv : Conversion) (source : Node) (depth : Nat) :
    ∃ (nodes : List Node) (findings : List Diagnostic) (error? : Option ConversionError),
      nodes.length ≤ 1 ∧ (error? = none → nodes.length = 1) ∧
      ∀ (parent : Node) (diagnostics : List Diagnostic),
        cv.convertNode source ⟨parent, diagnostics, depth⟩ =
          { pass :=
              { parent := Node.mk parent.kind parent.attributes (parent.children ++ nodes)
                diagnostics := diagnostics ++ findings
                depth := depth }
            error? := error?
            returned? := if error?.isNone then some parent.children.length else none } := by
  have h := cv.attaches_contribution (cv.config.maxDepth - depth) source
  let added := cv.contribution (cv.config.maxDepth - depth) source
  refine ⟨added.nodes, added.findings, added.error?, h.length_le, h.length_eq,
    fun parent diagnostics => ?_⟩
  let step := cv.convertWithin (cv.config.maxDepth - depth) source
  let start : Pass := ⟨parent, diagnostics, depth⟩
  calc
    cv.convertNode source start
      = ⟨(step start).pass, (step start).error?, (step start).returned?⟩ := rfl
    _ = _ := by rw [h.pass, h.error?, h.returned?]; rfl

end Conversion
end DialectConversion
