import DialectConversion.Proofs.Conversion.Frame

/-! Over-expressions that are rebuilt. Of its node the rebuilding reads the canonical name of the function,
the first list of expressions below the function and the first of the OVER parameters; nothing else has an
influence, and the result is put together from these three. -/
namespace DialectConversion
set_option autoImplicit false

/-- The first list of expressions below a node, in the order in which the tree is written. -/
def Node.firstExpressionList? (n : Node) : Option Node :=
  n.descendants.find? fun d => d.kind = SourceKind.expressionList.label

namespace MatchedOver

theorem parts?_eq (m : MatchedOver) :
    m.parts? =
      match m.functionIdentifier.firstExpressionList?, m.overParams.children.head? with
      | none, _ => .error "expression-list under the function identifier"
      | some _, none => .error "child under the OVER parameters"
      | some arguments, some parameter => .ok (arguments, parameter) := by
  rw [parts?, Node.findDescendant?_eq_find?, Node.firstChild?, ← Node.firstExpressionList?]
  split
  · rename_i harguments
    rw [harguments]
  · rename_i arguments harguments
    rw [harguments]
    cases m.overParams.children.head? <;> rfl

end MatchedOver

namespace Rule

/-- A rebuilt over-expression: the name of the function over its arguments, and one parameter. -/
def rebuiltOver (functionName : String) (arguments parameter : Node) : Node :=
  Node.branch TargetKind.overExpression.label
    [Node.mk TargetKind.simpleIdentifier.label
        (NameMap.ofList [(AttributeName.text, functionName), (AttributeName.value, functionName)])
        [Node.branch TargetKind.simpleIdentifierParams.label [arguments]],
      Node.branch TargetKind.overExpressionParams.label [parameter]]

/-- Nothing but the kind of the node, the name and the two parts has an influence. -/
theorem rebuildOverExpression_eq {convert : Node → Step} {source other : Node} {m m' : MatchedOver}
    (hkind : source.kind = other.kind) (hname : m.functionName = m'.functionName)
    (hparts : m.parts? = m'.parts?) :
    rebuildOverExpression convert source m = rebuildOverExpression convert other m' := by
  cases h : m.parts? with
  | error part =>
    have h' : m'.parts? = .error part := hparts ▸ h
    rw [rebuildOverExpression_of_missing h, rebuildOverExpression_of_missing h', hkind]
  | ok found =>
    obtain ⟨arguments, parameter⟩ := found
    have h' : m'.parts? = .ok (arguments, parameter) := hparts ▸ h
    rw [rebuildOverExpression_of_parts h, rebuildOverExpression_of_parts h', hname]

theorem rebuildContribution_of_success {f : Node → Contribution} {source : Node} {m : MatchedOver}
    {arguments parameter a b : Node} {findings findings' : List Diagnostic}
    (hparts : m.parts? = .ok (arguments, parameter)) (ha : f arguments = ⟨[a], findings, none⟩)
    (hb : f parameter = ⟨[b], findings', none⟩) :
    rebuildContribution f source m =
      ⟨[rebuiltOver m.functionName a b], findings ++ findings', none⟩ := by
  simp only [rebuildContribution, hparts, ha, hb]
  rfl

end Rule

namespace Conversion

variable (cv : Conversion) {source : Node} {m : MatchedOver}

theorem convertBy_rebuildAggregate_of_missing {part : String} (hmatch : source.matchOver = .rebuild m)
    (hparts : m.parts? = .error part) (p : Pass) :
    cv.convertBy .rebuildAggregate source p =
      { pass := p, error? := some (.missingSubstructure source.kind part) } := by
  rw [convertBy, Rule.apply_of_rebuild hmatch, Rule.rebuildOverExpression_of_missing hparts]
  rfl

/-- What rebuilding leaves behind when both parts are there. The list is converted into a container of its own,
and then the parameter is. The error is that of the first conversion that fails; if neither fails, an
over-expression is added that consists of the name over what the one conversion added and of what the other
one added. -/
def RebuiltFrom (name : String) (arguments parameter : Node) (p : Pass) (result : Progress) : Prop :=
  let first := cv.convertNode arguments
    { p with parent := Node.leaf TargetKind.simpleIdentifierParams.label }
  let second := cv.convertNode parameter
    { first.pass with parent := Node.leaf TargetKind.overExpressionParams.label }
  result.error? = first.error?.or second.error? ∧
    (result.error? = none → ∃ a b : Node,
      first.pass.parent = Node.branch TargetKind.simpleIdentifierParams.label [a] ∧
      second.pass.parent = Node.branch TargetKind.overExpressionParams.label [b] ∧
      result =
        { pass := { second.pass with parent := p.parent.withChild (Rule.rebuiltOver name a b) }
          returned? := some p.parent.children.length })

theorem convertBy_rebuildAggregate_of_parts {arguments parameter : Node}
    (hmatch : source.matchOver = .rebuild m) (hparts : m.parts? = .ok (arguments, parameter)) (p : Pass) :
    cv.RebuiltFrom m.functionName arguments parameter p (cv.convertBy .rebuildAggregate source p) := by
  unfold RebuiltFrom
  intro first second
  let levels := cv.config.maxDepth - p.depth
  let f := cv.contribution levels
  have hf (n : Node) : (cv.convertWithin levels n).Attaches (f n) := cv.attaches_contribution levels n
  have hfirst : first = (f arguments).progress
      { p with parent := Node.leaf TargetKind.simpleIdentifierParams.label } :=
    (hf arguments).run_eq _
  have hsecond : second = (f parameter).progress
      { first.pass with parent := Node.leaf TargetKind.overExpressionParams.label } := by
    have hlevels : cv.config.maxDepth - first.pass.depth = levels := by rw [hfirst]; rfl
    show cv.convertWithin (cv.config.maxDepth - first.pass.depth) parameter _ = _
    rw [hlevels]
    exact (hf parameter).run_eq _
  have hrule : cv.convertBy .rebuildAggregate source p =
      (Rule.rebuildContribution f source m).progress p := by
    rw [convertBy_eq_apply, ← Rule.contribution_of_rebuild hmatch]
    exact (Rule.attaches_apply .rebuildAggregate (fun n => (hf n).toAdds) source).run_eq p
  have herror : (Rule.rebuildContribution f source m).error? =
      (f arguments).error?.or (f parameter).error? := by
    simp only [Rule.rebuildContribution, hparts]
    exact Contribution.error?_andThen _ _
  rw [hrule, hsecond, hfirst]
  refine ⟨herror, fun hsuccess => ?_⟩
  obtain ⟨harguments, hparameter⟩ : (f arguments).error? = none ∧ (f parameter).error? = none := by
    rwa [← Option.or_eq_none_iff, ← herror]
  obtain ⟨a, ha⟩ := List.length_eq_one_iff.1 ((hf arguments).length_eq harguments)
  obtain ⟨b, hb⟩ := List.length_eq_one_iff.1 ((hf parameter).length_eq hparameter)
  refine ⟨a, b, ?_, ?_, ?_⟩
  · simp only [Contribution.progress, Contribution.appliedTo, ha]
    rfl
  · simp only [Contribution.progress, Contribution.appliedTo, hb]
    rfl
  · have hfirstPart : f arguments = ⟨[a], (f arguments).findings, none⟩ := by rw [← ha, ← harguments]
    have hsecondPart : f parameter = ⟨[b], (f parameter).findings, none⟩ := by rw [← hb, ← hparameter]
    rw [Rule.rebuildContribution_of_success hparts hfirstPart hsecondPart]
    simp only [Contribution.progress, Contribution.appliedTo, List.append_assoc]
    rfl

/-- Over-expressions of one kind that are rebuilt under one name lead to the same, however other nodes are
converted, if the first list of expressions below the function is the same in both and so is the first of
the OVER parameters. The result is an over-expression of the name over the converted list and of the
converted parameter; where one of the two is missing, there is only an error that says which. -/
theorem convertBy_rebuildAggregate_eq {source other : Node} {name : String}
    {function params function' params' : Node} (hkind : source.kind = other.kind)
    (hsource : source.matchOver = .rebuild ⟨name, function, params⟩)
    (hother : other.matchOver = .rebuild ⟨name, function', params'⟩)
    (harguments : function.firstExpressionList? = function'.firstExpressionList?)
    (hparameter : params.children.head? = params'.children.head?) (p : Pass) :
    (∀ convert : Node → Step,
        Rule.rebuildAggregate.apply convert source = Rule.rebuildAggregate.apply convert other) ∧
      match function.firstExpressionList?, params.children.head? with
      | none, _ => cv.convertBy .rebuildAggregate source p =
          { pass := p
            error? := some
              (.missingSubstructure source.kind "expression-list under the function identifier") }
      | some _, none => cv.convertBy .rebuildAggregate source p =
          { pass := p
            error? := some (.missingSubstructure source.kind "child under the OVER parameters") }
      | some arguments, some parameter =>
        cv.RebuiltFrom name arguments parameter p (cv.convertBy .rebuildAggregate source p) := by
  have hparts (n m : Node) := MatchedOver.parts?_eq ⟨name, n, m⟩
  constructor
  · intro convert
    have hsame : (⟨name, function, params⟩ : MatchedOver).parts? =
        (⟨name, function', params'⟩ : MatchedOver).parts? := by
      rw [hparts, hparts, harguments, hparameter]
    rw [Rule.apply_of_rebuild hsource, Rule.apply_of_rebuild hother]
    exact Rule.rebuildOverExpression_eq hkind (by rfl) hsame
  · specialize hparts function params
    split
    · rename_i hmissing
      rw [hmissing] at hparts
      exact convertBy_rebuildAggregate_of_missing cv hsource hparts p
    · rename_i hfound hmissing
      rw [hfound, hmissing] at hparts
      exact convertBy_rebuildAggregate_of_missing cv hsource hparts p
    · rename_i hfound hfirst
      rw [hfound, hfirst] at hparts
      exact convertBy_rebuildAggregate_of_parts cv hsource hparts p

def columnList : Node := SourceKind.expressionList.branchNode [SourceKind.rawExpression.textNode "a"]

/-- The function of an over-expression, named by a part, with a further list behind its arguments. -/
def partedFunction : Node :=
  SourceKind.identifier.branchNode
    [SourceKind.namePart.textNode "First_Value", SourceKind.functionArguments.branchNode [columnList],
      SourceKind.expressionList.branchNode []]

/-- The same function, named by a text and with its arguments right below it. -/
def dottedFunction : Node :=
  Node.mk SourceKind.identifier.label (NameMap.ofList [(AttributeName.text, " first_value . ")]) [columnList]

theorem convertBy_rebuildAggregate_eq_dotted :
    let window := SourceKind.rawExpression.textNode "PARTITION BY b"
    let params := SourceKind.overExpressionParams.branchNode [window, Node.leaf "dropped"]
    let source := SourceKind.overExpression.branchNode [partedFunction, params]
    let params' := Node.branch "window" [window]
    let other := SourceKind.overExpression.branchNode [dottedFunction, params']
    let p : Pass := ⟨Node.leaf TargetKind.document.label, [Diagnostic.unmapped "earlier"], 7⟩
    source.kind = other.kind ∧
      source.matchOver = .rebuild ⟨"FIRST_VALUE", partedFunction, params⟩ ∧
      other.matchOver = .rebuild ⟨"FIRST_VALUE", dottedFunction, params'⟩ ∧
      partedFunction.firstExpressionList? = dottedFunction.firstExpressionList? ∧
      params.children.head? = params'.children.head? ∧
      (⟨{}, {}⟩ : Conversion).convertBy .rebuildAggregate source p =
        (⟨{}, {}⟩ : Conversion).convertBy .rebuildAggregate other p := by
  intro window params source params' other p
  have hkind : source.kind = other.kind := rfl
  have hsource : source.matchOver = .rebuild ⟨"FIRST_VALUE", partedFunction, params⟩ := by decide +kernel
  have hother : other.matchOver = .rebuild ⟨"FIRST_VALUE", dottedFunction, params'⟩ := by decide +kernel
  have hlist : partedFunction.firstExpressionList? = dottedFunction.firstExpressionList? := by
    decide +kernel
  have hparameter : params.children.head? = params'.children.head? := rfl
  have hsame := convertBy_rebuildAggregate_eq ⟨{}, {}⟩ hkind hsource hother hlist hparameter p
  exact ⟨hkind, hsource, hother, hlist, hparameter, congrFun (hsame.1 _) p⟩

end Conversion
end DialectConversion
