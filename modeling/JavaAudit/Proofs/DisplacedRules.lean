import JavaAudit.Optimization.RuleSet
import JavaAudit.Proofs.DisplacedContexts
import JavaAudit.Security.RuleSet

/-! Rules on moved trees.

No rule asks where a node is in the text except in comparison with other nodes of its tree. So a
rule finds the same at a moved node, on the moved line. -/

set_option autoImplicit false

namespace JavaAudit

variable (delta : Displacement)

def Finding.move {κ : Type} (finding : Finding κ) : Finding κ :=
  { finding with line := finding.line + delta.lines }

def Verdict.move {κ : Type} : Verdict (Finding κ) → Verdict (Finding κ)
  | .findings list => .findings (list.map (Finding.move delta))
  | .malformedLiteral line => .malformedLiteral (line + delta.lines)
  | .failed reason => .failed reason

@[simp] theorem Verdict.move_findings {κ : Type} (list : List (Finding κ)) :
    (Verdict.findings list).move delta = .findings (list.map (Finding.move delta)) := rfl

@[simp] theorem Verdict.move_malformedLiteral {κ : Type} (line : Nat) :
    (Verdict.malformedLiteral line : Verdict (Finding κ)).move delta =
      .malformedLiteral (line + delta.lines) := rfl

@[simp] theorem Verdict.move_failed {κ : Type} (reason : String) :
    (Verdict.failed reason : Verdict (Finding κ)).move delta = .failed reason := rfl

@[simp] theorem Verdict.move_ite {κ : Type} (condition : Prop) [Decidable condition]
    (yes no : Verdict (Finding κ)) :
    (if condition then yes else no).move delta =
      if condition then yes.move delta else no.move delta :=
  apply_ite (Verdict.move delta) condition yes no

def Application.move {κ : Type} (application : Application (Finding κ)) :
    Application (Finding κ) :=
  { application with
    line := application.line + delta.lines
    verdict := application.verdict.move delta }

@[simp] theorem Application.findings_move {κ : Type} (application : Application (Finding κ)) :
    (application.move delta).findings = application.findings.map (Finding.move delta) := by
  obtain ⟨rule, line, verdict⟩ := application
  cases verdict <;> rfl

@[simp] theorem MethodContext.method_move (context : MethodContext) :
    (context.move delta).method = context.method.move delta := rfl

@[simp] theorem MethodContext.scope_move (context : MethodContext) :
    (context.move delta).scope = context.scope := rfl

@[simp] theorem MethodContext.cyclomatic_move (context : MethodContext) :
    (context.move delta).complexity.cyclomatic = context.complexity.cyclomatic := rfl

namespace Optimization

@[simp] theorem silent_move : silent.move delta = silent := rfl

@[simp] theorem report_move (category : Category) (description : String) (site : Site)
    (snippet : String) (severity : Severity) :
    report category description (site.move delta) snippet severity =
      (report category description site snippet severity).move delta := by
  simp [report, Verdict.move, Finding.move]

@[simp] theorem isLocalDeclarator_move (site : Site) :
    isLocalDeclarator (site.move delta) = isLocalDeclarator site := by
  simp [isLocalDeclarator, Option.any_map]

@[simp] theorem isPrintedOrLogged_move (site : Site) :
    isPrintedOrLogged (site.move delta) = isPrintedOrLogged site := by
  simp [isPrintedOrLogged, Function.comp_def]

@[simp] theorem appendsString_move (site : Site) (scope : Scope) (target : String) :
    appendsString (site.move delta) scope target = appendsString site scope target := by
  unfold appendsString
  simp only [Site.child?_move, Site.bind_unwrap?_move, Site.childText_move]
  generalize (site.child? .right).bind Site.unwrap? = value
  split
  · simp [Option.any_map]
  · cases value with
    | none => rfl
    | some value =>
      simp only [Option.map_some, Option.getD_some, Site.plusOperands_move]
      cases value.plusOperands with
      | nil => rfl
      | cons first rest => cases rest <;> simp [Function.comp_def]
  · rfl

@[simp] theorem isInWhileBody_move (site : Site) :
    isInWhileBody (site.move delta) = isInWhileBody site := by
  simp [isInWhileBody, Option.any_map, Function.comp_def]

@[simp] theorem hasBreak_move (body : Site) : hasBreak (body.move delta) = hasBreak body := by
  simp [hasBreak, Function.comp_def]

section
variable (site : Site) (context : MethodContext)

theorem unusedVariable_move :
    unusedVariable (site.move delta) (context.move delta) =
      (unusedVariable site context).move delta := by
  simp [unusedVariable]

theorem uninitializedVariable_move :
    uninitializedVariable (site.move delta) (context.move delta) =
      (uninitializedVariable site context).move delta := by
  simp [uninitializedVariable, Function.comp_def]

theorem stringConcatenationInLoop_move :
    stringConcatenationInLoop (site.move delta) (context.move delta) =
      (stringConcatenationInLoop site context).move delta := by
  unfold stringConcatenationInLoop
  rw [Site.child?_move, Site.bind_identifier?_move]
  cases nonempty? ((site.child? .left).bind Site.identifier?) <;> simp

theorem loopInvariantCalculation_move :
    loopInvariantCalculation (site.move delta) (context.move delta) =
      (loopInvariantCalculation site context).move delta := by
  simp [loopInvariantCalculation]

theorem unnecessaryObjectCreation_move :
    unnecessaryObjectCreation (site.move delta) (context.move delta) =
      (unnecessaryObjectCreation site context).move delta := by
  simp [unnecessaryObjectCreation]

theorem wrapperObjectCreation_move :
    wrapperObjectCreation (site.move delta) (context.move delta) =
      (wrapperObjectCreation site context).move delta := by
  unfold wrapperObjectCreation
  rw [Site.above_move]
  cases site.above with
  | nil => simp
  | cons parent rest => cases rest <;> simp [Ancestor.move]

theorem division_move :
    division (site.move delta) (context.move delta) = (division site context).move delta := by
  unfold division
  rw [Site.child?_move]
  cases site.child? .right with
  | none => rfl
  | some divisor =>
    simp only [Option.map_some, Site.childText_move, Site.kind_move, Site.text_move,
      Site.line_move, Verdict.move_ite, silent_move]
    cases IntLiteral.value? divisor.text <;> simp

theorem inefficientLoop_move :
    inefficientLoop (site.move delta) (context.move delta) =
      (inefficientLoop site context).move delta := by
  unfold inefficientLoop
  rw [Site.child?_move, Site.bind_unwrap?_move]
  cases (site.child? .condition).bind Site.unwrap? with
  | none => rfl
  | some condition =>
    simp only [Option.map_some, Site.child?_move]
    cases condition.child? .right <;> simp

theorem infiniteLoop_move :
    infiniteLoop (site.move delta) (context.move delta) =
      (infiniteLoop site context).move delta := by
  simp [infiniteLoop, Option.any_map, -Option.map_bind]

theorem redundantCondition_move :
    redundantCondition (site.move delta) (context.move delta) =
      (redundantCondition site context).move delta := by
  simp [redundantCondition, Option.any_map, -Option.map_bind]

theorem emptyMethod_move :
    emptyMethod (site.move delta) (context.move delta) = (emptyMethod site context).move delta := by
  unfold emptyMethod
  rw [Site.body?_move]
  cases site.body? <;> simp

theorem tooManyParameters_move (limits : Limits) :
    tooManyParameters limits (site.move delta) (context.move delta) =
      (tooManyParameters limits site context).move delta := by
  simp [tooManyParameters]

theorem highCyclomaticComplexity_move (limits : Limits) :
    highCyclomaticComplexity limits (site.move delta) (context.move delta) =
      (highCyclomaticComplexity limits site context).move delta := by
  simp only [highCyclomaticComplexity, Site.declaredName_move, Site.renderHeader_move, report_move,
    MethodContext.cyclomatic_move]
  split <;> rfl

end

end Optimization

namespace Security

@[simp] theorem silent_move : silent.move delta = silent := rfl

@[simp] theorem finding_move (category : Category) (description : String) (site : Site)
    (snippet : String) (severity : Severity) :
    finding category description (site.move delta) snippet severity =
      (finding category description site snippet severity).move delta := by
  simp [finding, Finding.move]

@[simp] theorem report_move (category : Category) (description : String) (site : Site)
    (severity : Severity) :
    report category description (site.move delta) severity =
      (report category description site severity).move delta := by
  simp [report]

@[simp] theorem credentialDeclarator?_move (declaration declarator : Site) :
    credentialDeclarator? (declaration.move delta) (declarator.move delta) =
      (credentialDeclarator? declaration declarator).map (Finding.move delta) := by
  unfold credentialDeclarator?
  rw [Site.child?_move, Site.bind_unwrap?_move]
  cases (declarator.child? .value).bind Site.unwrap? with
  | none => rfl
  | some value => simp [apply_ite (Option.map (Finding.move delta))]

@[simp] theorem sensitiveDeclarator?_move (declaration declarator : Site) :
    sensitiveDeclarator? (declaration.move delta) (declarator.move delta) =
      (sensitiveDeclarator? declaration declarator).map (Finding.move delta) := by
  simp [sensitiveDeclarator?, apply_ite (Option.map (Finding.move delta))]

@[simp] theorem isOpenQuery_move (site : Site) (context : MethodContext) :
    isOpenQuery (site.move delta) (context.move delta) = isOpenQuery site context := by
  simp [isOpenQuery]

@[simp] theorem isConcatenatedQuery_move (context : MethodContext) (call argument : Site) :
    isConcatenatedQuery (context.move delta) (call.move delta) (argument.move delta) =
      isConcatenatedQuery context call argument := by
  simp [isConcatenatedQuery, Option.any_map]

@[simp] theorem isForeignPath_move (scope : Scope) (argument : Site) :
    isForeignPath scope (argument.move delta) = isForeignPath scope argument := by
  simp [isForeignPath]

@[simp] theorem guardText_move (site : Site) : guardText (site.move delta) = guardText site := by
  simp [guardText, List.filter_map, List.find?_map, Function.comp_def]

@[simp] theorem handlerStatements_move (site : Site) :
    handlerStatements (site.move delta) = (handlerStatements site).map (Site.move delta) := by
  unfold handlerStatements
  rw [Site.body?_move]
  cases site.body? <;> simp

@[simp] theorem printsStackTrace_move (statement : Site) :
    printsStackTrace (statement.move delta) = printsStackTrace statement := by
  simp [printsStackTrace, Option.any_map]

section
variable {γ : Type} (moveContext : γ → γ) (site : Site) (context : γ)

theorem credentialField_move :
    credentialField (site.move delta) (moveContext context) =
      (credentialField site context).move delta := by
  simp [credentialField, List.filterMap_map, List.map_filterMap]

theorem credentialLiteral_move :
    credentialLiteral (site.move delta) (moveContext context) =
      (credentialLiteral site context).move delta := by
  simp [credentialLiteral, Option.any_map]

theorem weakRandom_move :
    weakRandom (site.move delta) (moveContext context) =
      (weakRandom site context).move delta := by
  simp [weakRandom, Option.any_map]

end

section
variable (site : Site) (context : MethodContext)

theorem commandInjection_move :
    commandInjection (site.move delta) (context.move delta) =
      (commandInjection site context).move delta := by
  unfold commandInjection
  rw [Site.child?_move]
  cases site.child? .object <;> simp

theorem dangerousMethodCall_move :
    dangerousMethodCall (site.move delta) (context.move delta) =
      (dangerousMethodCall site context).move delta := by
  simp [dangerousMethodCall]

theorem sqlInjection_move :
    sqlInjection (site.move delta) (context.move delta) =
      (sqlInjection site context).move delta := by
  simp [sqlInjection, Function.comp_def]

theorem dynamicSqlConstruction_move :
    dynamicSqlConstruction (site.move delta) (context.move delta) =
      (dynamicSqlConstruction site context).move delta := by
  simp [dynamicSqlConstruction, Function.comp_def]

theorem pathTraversal_move :
    pathTraversal (site.move delta) (context.move delta) =
      (pathTraversal site context).move delta := by
  simp [pathTraversal, Function.comp_def]

theorem sensitiveDataExposure_move :
    sensitiveDataExposure (site.move delta) (context.move delta) =
      (sensitiveDataExposure site context).move delta := by
  simp [sensitiveDataExposure, List.filterMap_map, List.map_filterMap]

theorem arrayBoundsCheck_move :
    arrayBoundsCheck (site.move delta) (context.move delta) =
      (arrayBoundsCheck site context).move delta := by
  unfold arrayBoundsCheck
  rw [Site.child?_move, Site.bind_identifier?_move]
  cases nonempty? ((site.child? .index).bind Site.identifier?) <;> simp

theorem unsafeCasting_move :
    unsafeCasting (site.move delta) (context.move delta) =
      (unsafeCasting site context).move delta := by
  simp [unsafeCasting]

theorem emptyCatchBlock_move :
    emptyCatchBlock (site.move delta) (context.move delta) =
      (emptyCatchBlock site context).move delta := by
  simp [emptyCatchBlock]

theorem poorExceptionHandling_move :
    poorExceptionHandling (site.move delta) (context.move delta) =
      (poorExceptionHandling site context).move delta := by
  unfold poorExceptionHandling
  rw [handlerStatements_move]
  cases handlerStatements site with
  | nil => rfl
  | cons statement rest => cases rest <;> simp

end

def DereferenceContext.move (context : DereferenceContext) : DereferenceContext :=
  { context with
    method := context.method.move delta
    flaggedLines := context.flaggedLines.map (· + (delta.lines : Int)) }

theorem contains_moved (lines : List Int) (line : Nat) :
    (lines.map (· + (delta.lines : Int))).contains ((line + delta.lines : Nat) : Int) =
      lines.contains (line : Int) := by
  rw [Bool.eq_iff_iff]
  simp

theorem nullPointerDereference_move (site : Site) (context : DereferenceContext) :
    nullPointerDereference (site.move delta) (context.move delta) =
      (nullPointerDereference site context).move delta := by
  unfold nullPointerDereference
  rw [Site.child?_move, Site.bind_identifier?_move]
  cases nonempty? ((site.child? .object).bind Site.identifier?) with
  | none => rfl
  | some name =>
    simp only [DereferenceContext.move, Site.line_move, contains_moved, mayBeNull]
    simp

end Security

namespace Rule

variable {γ κ : Type} {delta} {moveContext : γ → γ}

/-- The rule finds the same at a moved node in the moved context, on the moved line. -/
def IsSteady (delta : Displacement) (moveContext : γ → γ) (rule : Rule γ (Finding κ)) : Prop :=
  ∀ site context,
    rule.check (site.move delta) (moveContext context) = (rule.check site context).move delta

theorem apply_move {rule : Rule γ (Finding κ)} (steady : rule.IsSteady delta moveContext)
    (site : Site) (context : γ) :
    rule.apply (site.move delta) (moveContext context) =
      (rule.apply site context).move delta := by
  simp only [apply, steady site context, Site.line_move, Application.move]

variable {rules : List (Rule γ (Finding κ))}
  (steady : ∀ rule ∈ rules, rule.IsSteady delta moveContext)

include steady

theorem applyAll_move (context : γ) (site : Site) :
    applyAll rules (moveContext context) (site.move delta) =
      (applyAll rules context site).map (Application.move delta) := by
  simp only [applyAll, Site.kind_move, List.map_map]
  apply List.map_congr_left
  intro rule member
  exact apply_move (steady rule (List.mem_filter.mp member).1) site context

theorem run_move (start : Site) (context : γ) :
    run rules (start.move delta) (moveContext context) =
      (run rules start context).map (Application.move delta) := by
  simp only [run, Site.scope_move, List.flatMap_map, List.map_flatMap, applyAll_move steady]

end Rule

theorem findings_moved {κ : Type} (applications : List (Application (Finding κ))) :
    (applications.map (Application.move delta)).flatMap (·.findings) =
      (applications.flatMap (·.findings)).map (Finding.move delta) := by
  simp only [List.flatMap_map, List.map_flatMap, Application.findings_move]

namespace Optimization

theorem nodeRules_steady :
    ∀ rule ∈ nodeRules, rule.IsSteady delta (MethodContext.move delta) := by
  simp only [nodeRules, List.forall_mem_cons, List.not_mem_nil, false_imp_iff, implies_true,
    and_true]
  exact ⟨unusedVariable_move delta, uninitializedVariable_move delta,
    stringConcatenationInLoop_move delta, loopInvariantCalculation_move delta,
    unnecessaryObjectCreation_move delta, wrapperObjectCreation_move delta, division_move delta,
    inefficientLoop_move delta, infiniteLoop_move delta, redundantCondition_move delta⟩

theorem methodRules_steady (limits : Limits) :
    ∀ rule ∈ methodRules limits, rule.IsSteady delta (MethodContext.move delta) := by
  simp only [methodRules, List.forall_mem_cons, List.not_mem_nil, false_imp_iff, implies_true,
    and_true]
  exact ⟨emptyMethod_move delta,
    fun site context => tooManyParameters_move delta site context limits,
    fun site context => highCyclomaticComplexity_move delta site context limits⟩

theorem applications_move (limits : Limits) (context : MethodContext) :
    applications limits (context.move delta) =
      (applications limits context).map (Application.move delta) := by
  have ofMethod := Rule.applyAll_move (methodRules_steady delta limits) context context.method
  unfold applications
  rw [MethodContext.method_move, ofMethod, Site.body?_move, List.map_append]
  cases context.method.body? with
  | none => rfl
  | some body =>
    simp only [Option.map_some, Option.getD_some, Rule.run_move (nodeRules_steady delta)]

theorem analyzeMethod_move (limits : Limits) (context : MethodContext) :
    (analyzeMethod limits (context.move delta)).findings =
      (analyzeMethod limits context).findings.map (Finding.move delta) := by
  simp only [analyzeMethod, Pass.ofApplications, applications_move, findings_moved]

end Optimization

namespace Security

theorem fieldRules_steady : ∀ rule ∈ fieldRules, rule.IsSteady delta id := by
  simp only [fieldRules, List.forall_mem_cons, List.not_mem_nil, false_imp_iff, implies_true,
    and_true]
  exact credentialField_move delta id

theorem initializerRules_steady : ∀ rule ∈ initializerRules, rule.IsSteady delta id := by
  simp only [initializerRules, List.forall_mem_cons, List.not_mem_nil, false_imp_iff, implies_true,
    and_true]
  exact ⟨credentialLiteral_move delta id, weakRandom_move delta id⟩

theorem nodeRules_steady :
    ∀ rule ∈ nodeRules, rule.IsSteady delta (MethodContext.move delta) := by
  simp only [nodeRules, List.forall_mem_cons, List.not_mem_nil, false_imp_iff, implies_true,
    and_true]
  exact ⟨credentialLiteral_move delta (MethodContext.move delta), commandInjection_move delta,
    dangerousMethodCall_move delta, sqlInjection_move delta, dynamicSqlConstruction_move delta,
    pathTraversal_move delta, weakRandom_move delta (MethodContext.move delta),
    sensitiveDataExposure_move delta, arrayBoundsCheck_move delta, unsafeCasting_move delta,
    emptyCatchBlock_move delta, poorExceptionHandling_move delta⟩

theorem dereferenceRule_steady :
    ∀ rule ∈ [dereferenceRule], rule.IsSteady delta (DereferenceContext.move delta) := by
  simp only [List.forall_mem_cons, List.not_mem_nil, false_imp_iff, implies_true, and_true]
  exact nullPointerDereference_move delta

theorem fieldApplications_move (declaration : Site) :
    fieldApplications (declaration.move delta) =
      (fieldApplications declaration).map (Application.move delta) := by
  have ofDeclaration : fieldRules.map (·.apply (declaration.move delta) ()) =
      (fieldRules.map (·.apply declaration ())).map (Application.move delta) := by
    rw [List.map_map]
    apply List.map_congr_left
    intro rule member
    exact Rule.apply_move (fieldRules_steady delta rule member) declaration ()
  have ofInitializer := Rule.run_move (initializerRules_steady delta) declaration ()
  rw [fieldApplications, ofDeclaration, fieldApplications, List.map_append, ← ofInitializer]

theorem analyzeFields_move (root : Site) :
    (analyzeFields (root.move delta)).findings =
      (analyzeFields root).findings.map (Finding.move delta) := by
  have declarations : ((root.move delta).findBelow Kind.isField).flatMap fieldApplications =
      ((root.findBelow Kind.isField).flatMap fieldApplications).map (Application.move delta) := by
    rw [Site.findBelow_move, List.flatMap_map, List.map_flatMap]
    simp only [fieldApplications_move]
  simp only [analyzeFields, Pass.ofApplications, declarations, findings_moved]

theorem queryLines_move (body : Site) :
    queryLines (body.move delta) = (queryLines body).map (· + (delta.lines : Int)) := by
  simp [queryLines, List.filter_map, Function.comp_def]

theorem lines_moved (findings : List (Finding Category)) :
    (findings.map (Finding.move delta)).map (·.line) =
      (findings.map (·.line)).map (· + (delta.lines : Int)) := by
  simp [Finding.move, Function.comp_def]

theorem dereferenceContext_move (context : MethodContext) (body : Site) (flaggedLines : List Int)
    (findings : List (Finding Category)) :
    dereferenceContext (context.move delta) (body.move delta)
        (flaggedLines.map (· + (delta.lines : Int))) (findings.map (Finding.move delta)) =
      (dereferenceContext context body flaggedLines findings).move delta := by
  simp only [dereferenceContext, DereferenceContext.move, queryLines_move, lines_moved,
    lookupNames_move, List.map_append]

theorem analyzeBody_move (context : MethodContext) (body : Site) (flaggedLines : List Int) :
    (analyzeBody (context.move delta) (body.move delta)
        (flaggedLines.map (· + (delta.lines : Int)))).findings =
      (analyzeBody context body flaggedLines).findings.map (Finding.move delta) := by
  have direct : directFindings (context.move delta) (body.move delta) =
      (directFindings context body).map (Finding.move delta) := by
    unfold directFindings
    rw [Rule.run_move (nodeRules_steady delta), findings_moved]
  -- The lines that the search skips are moved along with the calls that it looks at.
  have deferred : dereferences (context.move delta) (body.move delta)
      (flaggedLines.map (· + (delta.lines : Int))) =
        (dereferences context body flaggedLines).map (Finding.move delta) := by
    unfold dereferences
    rw [direct, dereferenceContext_move, Rule.run_move (dereferenceRule_steady delta),
      findings_moved]
  rw [analyzeBody_findings, analyzeBody_findings, direct, deferred, List.map_append]

theorem analyzeMethod_move (context : MethodContext) (flaggedLines : List Int) :
    (analyzeMethod (context.move delta) (flaggedLines.map (· + (delta.lines : Int)))).findings =
      (analyzeMethod context flaggedLines).findings.map (Finding.move delta) := by
  unfold analyzeMethod
  rw [MethodContext.method_move, Site.body?_move]
  cases context.method.body? with
  | none => rfl
  | some body => exact analyzeBody_move delta context body flaggedLines

end Security

end JavaAudit
