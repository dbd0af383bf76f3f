import JavaAudit.Optimization.Check

/-! The optimization rules of a method. -/

set_option autoImplicit false

namespace JavaAudit.Optimization

abbrev OptimizationRule := Rule MethodContext (Finding Category)

def rule (category : Category) (inspects : Kind → Bool)
    (check : Site → MethodContext → Report) : OptimizationRule :=
  ⟨category.name, inspects, check⟩

def nodeRules : List OptimizationRule := [
  rule .unusedVariable (· == .variableDeclarator) unusedVariable,
  rule .uninitializedVariable (· == .variableDeclarator) uninitializedVariable,
  rule .stringConcatenationInLoop (· == .assignmentExpression) stringConcatenationInLoop,
  rule .loopInvariantCalculation (· == .methodInvocation) loopInvariantCalculation,
  rule .unnecessaryObjectCreation (· == .objectCreationExpression) unnecessaryObjectCreation,
  rule .wrapperObjectCreation (· == .objectCreationExpression) wrapperObjectCreation,
  rule .divisionOptimization (· == .binaryExpression) division,
  rule .inefficientLoop (· == .forStatement) inefficientLoop,
  rule .infiniteLoop (· == .whileStatement) infiniteLoop,
  rule .redundantCondition (· == .ifStatement) redundantCondition]

def methodRules (limits : Limits) : List OptimizationRule := [
  rule .emptyMethod (· == .methodDeclaration) emptyMethod,
  rule .tooManyParameters Kind.isMethod (tooManyParameters limits),
  rule .highCyclomaticComplexity Kind.isMethod (highCyclomaticComplexity limits)]

/-- Every evaluation of a rule for one method: its body in document order, then the method. -/
def applications (limits : Limits) (context : MethodContext) :
    List (Application (Finding Category)) :=
  (context.method.body?.map fun body => Rule.run nodeRules body context).getD [] ++
    Rule.applyAll (methodRules limits) context context.method

def analyzeMethod (limits : Limits) (context : MethodContext) : Pass (Finding Category) :=
  let pass := Pass.ofApplications (applications limits context)
  { pass with
    events := pass.events ++
      [.optimizationFindings context.owner context.name pass.findings.length] }

structure Reports (rule : OptimizationRule) (category : Category) : Prop where
  name : rule.name = category.name
  about : ∀ site context, IsAbout category site (rule.check site context)

theorem reports_rule {category : Category} {inspects : Kind → Bool}
    {check : Site → MethodContext → Report}
    (about : ∀ site context, IsAbout category site (check site context)) :
    Reports (rule category inspects check) category :=
  ⟨rfl, about⟩

theorem nodeRules_report : ∀ rule ∈ nodeRules, ∃ category, Reports rule category := by
  simp only [nodeRules, List.forall_mem_cons, List.not_mem_nil, false_imp_iff, implies_true,
    and_true]
  exact ⟨⟨_, reports_rule unusedVariable_about⟩, ⟨_, reports_rule uninitializedVariable_about⟩,
    ⟨_, reports_rule stringConcatenationInLoop_about⟩,
    ⟨_, reports_rule loopInvariantCalculation_about⟩,
    ⟨_, reports_rule unnecessaryObjectCreation_about⟩,
    ⟨_, reports_rule wrapperObjectCreation_about⟩, ⟨_, reports_rule division_about⟩,
    ⟨_, reports_rule inefficientLoop_about⟩, ⟨_, reports_rule infiniteLoop_about⟩,
    ⟨_, reports_rule redundantCondition_about⟩⟩

theorem methodRules_report (limits : Limits) :
    ∀ rule ∈ methodRules limits, ∃ category, Reports rule category := by
  simp only [methodRules, List.forall_mem_cons, List.not_mem_nil, false_imp_iff, implies_true,
    and_true]
  exact ⟨⟨_, reports_rule emptyMethod_about⟩,
    ⟨_, reports_rule fun site context => tooManyParameters_about site context limits⟩,
    ⟨_, reports_rule fun site context => highCyclomaticComplexity_about site context limits⟩⟩

theorem Reports.of_mem_apply {rule : OptimizationRule} {category : Category} {site : Site}
    {context : MethodContext} {finding : Finding Category} (reports : Reports rule category)
    (member : finding ∈ (rule.apply site context).findings) :
    finding.category = category ∧ finding.line = site.line := by
  have about := reports.about site context
  unfold Application.findings Rule.apply at member
  dsimp only at member
  split at member
  next list same => exact about list same finding member
  next => cases member
  next => cases member

end JavaAudit.Optimization
