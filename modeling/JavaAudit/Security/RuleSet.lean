import JavaAudit.Security.Check

/-! The security rules of fields and methods. -/

set_option autoImplicit false

namespace JavaAudit.Security

def rule {γ : Type} (category : Category) (inspects : Kind → Bool) (check : Site → γ → Report) :
    Rule γ (Finding Category) :=
  ⟨category.name, inspects, check⟩

def fieldRules : List (Rule Unit (Finding Category)) := [
  rule .hardcodedCredentials Kind.isField credentialField]

def initializerRules : List (Rule Unit (Finding Category)) := [
  rule .hardcodedCredentials (· == .stringLiteral) credentialLiteral,
  rule .weakRandom (· == .objectCreationExpression) weakRandom]

def nodeRules : List (Rule MethodContext (Finding Category)) := [
  rule .hardcodedCredentials (· == .stringLiteral) credentialLiteral,
  rule .commandInjection (· == .methodInvocation) commandInjection,
  rule .dangerousMethodCall (· == .methodInvocation) dangerousMethodCall,
  rule .sqlInjection (· == .methodInvocation) sqlInjection,
  rule .dynamicSqlConstruction (· == .methodInvocation) dynamicSqlConstruction,
  rule .pathTraversal (· == .objectCreationExpression) pathTraversal,
  rule .weakRandom (· == .objectCreationExpression) weakRandom,
  rule .sensitiveDataExposure (· == .localVariableDeclaration) sensitiveDataExposure,
  rule .arrayBoundsCheck (· == .arrayAccess) arrayBoundsCheck,
  rule .unsafeCasting (· == .castExpression) unsafeCasting,
  rule .emptyCatchBlock (· == .catchClause) emptyCatchBlock,
  rule .poorExceptionHandling (· == .catchClause) poorExceptionHandling]

def dereferenceRule : Rule DereferenceContext (Finding Category) :=
  rule .nullPointerDereference (· == .methodInvocation) nullPointerDereference

def fieldApplications (declaration : Site) : List (Application (Finding Category)) :=
  fieldRules.map (·.apply declaration ()) ++ Rule.run initializerRules declaration ()

def analyzeFields (root : Site) : Pass (Finding Category) :=
  .ofApplications ((root.findBelow Kind.isField).flatMap fieldApplications)

/-- The lines on which a query call starts, nested types included. -/
def queryLines (body : Site) : List Int :=
  ((body.findBelow (· == .methodInvocation)).filter (isQueryCall ·.callName)).map (·.line)

def dereferenceContext (context : MethodContext) (body : Site) (flaggedLines : List Int)
    (findings : List (Finding Category)) : DereferenceContext where
  method := context
  flaggedLines := flaggedLines ++ findings.map (·.line) ++ queryLines body
  lookupNames := lookupNames body

/-- The node rules over a method body, then the search for null dereferences on lines without
another finding. `flaggedLines` are the lines of findings made elsewhere. -/
def analyzeBody (context : MethodContext) (body : Site) (flaggedLines : List Int) :
    Pass (Finding Category) :=
  let direct := Rule.run nodeRules body context
  let deferred := Rule.run [dereferenceRule] body
    (dereferenceContext context body flaggedLines (direct.flatMap (·.findings)))
  .ofApplications (direct ++ deferred)

def analyzeMethod (context : MethodContext) (flaggedLines : List Int) :
    Pass (Finding Category) :=
  match context.method.body? with
  | none => ⟨[], []⟩
  | some body =>
    let pass := analyzeBody context body flaggedLines
    { pass with
      events := pass.events ++
        [.securityFindings context.owner context.name pass.findings.length] }

/-- A rule is named after its category and reports it at the nodes that it inspects. -/
structure Reports {γ : Type} (rule : Rule γ (Finding Category)) (category : Category) : Prop where
  name : rule.name = category.name
  about : ∀ site context, IsAbout category site (rule.check site context)

def IsDirect {γ : Type} (rule : Rule γ (Finding Category)) : Prop :=
  ∃ category, Reports rule category ∧ category ≠ .nullPointerDereference

theorem isDirect_rule {γ : Type} {category : Category} {inspects : Kind → Bool}
    {check : Site → γ → Report} (about : ∀ site context, IsAbout category site (check site context))
    (other : category ≠ .nullPointerDereference) : IsDirect (rule category inspects check) :=
  ⟨category, ⟨rfl, about⟩, other⟩

theorem fieldRules_direct : ∀ rule ∈ fieldRules, IsDirect rule := by
  simp only [fieldRules, List.forall_mem_cons, List.not_mem_nil, false_imp_iff, implies_true,
    and_true]
  exact isDirect_rule credentialField_about (by decide)

theorem initializerRules_direct : ∀ rule ∈ initializerRules, IsDirect rule := by
  simp only [initializerRules, List.forall_mem_cons, List.not_mem_nil, false_imp_iff, implies_true,
    and_true]
  exact ⟨isDirect_rule credentialLiteral_about (by decide),
    isDirect_rule weakRandom_about (by decide)⟩

theorem nodeRules_direct : ∀ rule ∈ nodeRules, IsDirect rule := by
  simp only [nodeRules, List.forall_mem_cons, List.not_mem_nil, false_imp_iff, implies_true,
    and_true]
  exact ⟨isDirect_rule credentialLiteral_about (by decide),
    isDirect_rule commandInjection_about (by decide),
    isDirect_rule dangerousMethodCall_about (by decide),
    isDirect_rule sqlInjection_about (by decide),
    isDirect_rule dynamicSqlConstruction_about (by decide),
    isDirect_rule pathTraversal_about (by decide),
    isDirect_rule weakRandom_about (by decide),
    isDirect_rule sensitiveDataExposure_about (by decide),
    isDirect_rule arrayBoundsCheck_about (by decide),
    isDirect_rule unsafeCasting_about (by decide),
    isDirect_rule emptyCatchBlock_about (by decide),
    isDirect_rule poorExceptionHandling_about (by decide)⟩

theorem dereferenceRule_reports : Reports dereferenceRule .nullPointerDereference :=
  ⟨rfl, nullPointerDereference_about⟩

section
variable {γ : Type} {site : Site} {context : γ} {finding : Finding Category}

theorem Reports.of_mem_apply {rule : Rule γ (Finding Category)} {category : Category}
    (reports : Reports rule category) (member : finding ∈ (rule.apply site context).findings) :
    finding.category = category ∧ finding.line = site.line := by
  have about := reports.about site context
  unfold Application.findings Rule.apply at member
  dsimp only at member
  split at member
  next list same => exact about list same finding member
  next => cases member
  next => cases member

theorem IsDirect.of_mem_apply {rule : Rule γ (Finding Category)} (direct : IsDirect rule)
    (member : finding ∈ (rule.apply site context).findings) :
    finding.category ≠ .nullPointerDereference ∧ finding.line = site.line := by
  obtain ⟨category, reports, other⟩ := direct
  obtain ⟨rfl, line⟩ := reports.of_mem_apply member
  exact ⟨other, line⟩

end

theorem category_of_mem_analyzeFields {root : Site} {finding : Finding Category}
    (member : finding ∈ (analyzeFields root).findings) :
    finding.category ≠ .nullPointerDereference := by
  simp only [analyzeFields, Pass.ofApplications, List.flatMap_assoc, List.mem_flatMap] at member
  obtain ⟨declaration, _, application, isApplication, found⟩ := member
  rcases List.mem_append.mp isApplication with ofDeclaration | ofInitializer
  · obtain ⟨rule, inTable, rfl⟩ := List.mem_map.mp ofDeclaration
    exact ((fieldRules_direct rule inTable).of_mem_apply found).1
  · have reported := List.mem_flatMap.mpr ⟨application, ofInitializer, found⟩
    obtain ⟨site, _, rule, inTable, _, found⟩ := Rule.mem_findings_run.mp reported
    exact ((initializerRules_direct rule inTable).of_mem_apply found).1

def directFindings (context : MethodContext) (body : Site) : List (Finding Category) :=
  (Rule.run nodeRules body context).flatMap (·.findings)

def dereferences (context : MethodContext) (body : Site) (flaggedLines : List Int) :
    List (Finding Category) :=
  (Rule.run [dereferenceRule] body
    (dereferenceContext context body flaggedLines (directFindings context body))).flatMap
      (·.findings)

theorem analyzeBody_findings (context : MethodContext) (body : Site) (flaggedLines : List Int) :
    (analyzeBody context body flaggedLines).findings =
      directFindings context body ++ dereferences context body flaggedLines := by
  simp only [analyzeBody, Pass.ofApplications, List.flatMap_append]
  rfl

theorem of_mem_directFindings {context : MethodContext} {body : Site} {finding : Finding Category}
    (member : finding ∈ directFindings context body) :
    finding.category ≠ .nullPointerDereference ∧
      ∃ site ∈ body.scope, finding.line = site.line := by
  obtain ⟨site, inScope, rule, inTable, _, found⟩ := Rule.mem_findings_run.mp member
  obtain ⟨other, line⟩ := (nodeRules_direct rule inTable).of_mem_apply found
  exact ⟨other, site, inScope, line⟩

theorem of_mem_dereferences {context : MethodContext} {body : Site} {flaggedLines : List Int}
    {finding : Finding Category} (member : finding ∈ dereferences context body flaggedLines) :
    finding.category = .nullPointerDereference ∧
      (∃ call ∈ body.scope, call.kind = .methodInvocation ∧ finding.line = call.line) ∧
      finding.line ∉ flaggedLines ∧
      finding.line ∉ (directFindings context body).map (·.line) := by
  obtain ⟨call, inScope, rule, inTable, inspects, found⟩ := Rule.mem_findings_run.mp member
  rw [List.mem_singleton.mp inTable] at inspects found
  obtain ⟨category, line⟩ := dereferenceRule_reports.of_mem_apply found
  have unflagged : (call.line : Int) ∉ flaggedLines ++
      (directFindings context body).map (·.line) ++ queryLines body := by
    intro flagged
    -- On a flagged line the rule is silent, and there would be no finding.
    have quiet : dereferenceRule.check call (dereferenceContext context body flaggedLines
        (directFindings context body)) = silent := nullPointerDereference_of_flagged flagged
    simp [Rule.apply, Application.findings, quiet, silent] at found
  rw [← line] at unflagged
  simp only [List.mem_append, not_or] at unflagged
  exact ⟨category, ⟨call, inScope, beq_iff_eq.mp inspects, line⟩, unflagged.1.1, unflagged.1.2⟩

section
variable {left right : MethodContext}

theorem nodeRules_congr (method : left.method = right.method) (scope : left.scope = right.scope) :
    ∀ rule ∈ nodeRules, ∀ site, rule.check site left = rule.check site right := by
  -- The rules consult the method and its scope, not the type that declares it.
  obtain ⟨_, _, _, _⟩ := left
  obtain ⟨_, _, _, _⟩ := right
  cases method
  cases scope
  simp only [nodeRules, List.forall_mem_cons, List.not_mem_nil, false_imp_iff, implies_true,
    and_true]
  exact ⟨fun _ => rfl, fun _ => rfl, fun _ => rfl, fun _ => rfl, fun _ => rfl, fun _ => rfl,
    fun _ => rfl, fun _ => rfl, fun _ => rfl, fun _ => rfl, fun _ => rfl, fun _ => rfl⟩

theorem directFindings_congr (method : left.method = right.method)
    (scope : left.scope = right.scope) (body : Site) :
    directFindings left body = directFindings right body := by
  unfold directFindings
  rw [Rule.run_congr (nodeRules_congr method scope)]

theorem dereferences_congr (method : left.method = right.method) (scope : left.scope = right.scope)
    (body : Site) (flaggedLines : List Int) :
    dereferences left body flaggedLines = dereferences right body flaggedLines := by
  unfold dereferences
  rw [directFindings_congr method scope]
  congr 1
  apply Rule.run_congr
  intro rule inTable site
  rw [List.mem_singleton.mp inTable]
  obtain ⟨_, _, _, _⟩ := left
  obtain ⟨_, _, _, _⟩ := right
  cases method
  cases scope
  rfl

theorem analyzeMethod_congr (method : left.method = right.method)
    (scope : left.scope = right.scope) (flaggedLines : List Int) :
    (analyzeMethod left flaggedLines).findings = (analyzeMethod right flaggedLines).findings := by
  unfold analyzeMethod
  rw [method]
  cases right.method.body? with
  | none => rfl
  | some body =>
    simp only [analyzeBody_findings, directFindings_congr method scope,
      dereferences_congr method scope]

end

end JavaAudit.Security
