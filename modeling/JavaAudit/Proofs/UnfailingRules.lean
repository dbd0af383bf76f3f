import JavaAudit.Proofs.RuleVisits
import JavaAudit.Proofs.StrictOptimization
import JavaAudit.Proofs.StrictSecurity

/-! Rules that never fail.

A rule fails where its check stops. Main statement: with strict checks, the rules of an analysis
give at every node the verdict that they give without, and none of them fails, whatever the tree.
The depth of recursion is taken as unbounded. -/

set_option autoImplicit false

namespace JavaAudit

def Fault.reason : Fault → String
  | .absentNode => "absent node"
  | .absentItem => "absent item"
  | .absentContext => "absent context"
  | .emptyTotal => "empty total"
  | .malformedNumeral => "malformed numeral"

def Event.IsRuleFailure (event : Event) : Prop :=
  ∃ rule line reason, event = .ruleFailed rule line reason

def Application.Answered {α : Type} (application : Application α) : Prop :=
  ∀ reason, application.verdict ≠ .failed reason

theorem Application.Answered.events_free {α : Type} {application : Application α} {event : Event}
    (answered : application.Answered) (member : event ∈ application.events) :
    ¬event.IsRuleFailure := by
  rintro ⟨rule, line, reason, rfl⟩
  unfold Application.events at member
  split at member
  next => cases member
  next =>
    rw [List.mem_singleton] at member
    cases member
  next reason failed => exact answered reason failed

/-- Evaluations with strict checks give what the plain ones give, and no rule fails. -/
structure Unfailing {α : Type} (strict plain : List (Application α)) : Prop where
  same : strict = plain
  answered : ∀ application ∈ plain, application.Answered

namespace Unfailing

variable {α : Type} {strict plain moreStrict morePlain : List (Application α)}

theorem append (first : Unfailing strict plain) (second : Unfailing moreStrict morePlain) :
    Unfailing (strict ++ moreStrict) (plain ++ morePlain) where
  same := by rw [first.same, second.same]
  answered := by
    intro application member
    rcases List.mem_append.mp member with early | late
    · exact first.answered application early
    · exact second.answered application late

theorem flatMap {β : Type} {items : List β} {strict plain : β → List (Application α)}
    (each : ∀ item ∈ items, Unfailing (strict item) (plain item)) :
    Unfailing (items.flatMap strict) (items.flatMap plain) where
  same := List.flatMap_congr fun item member => (each item member).same
  answered := by
    intro application member
    obtain ⟨item, isItem, inside⟩ := List.mem_flatMap.mp member
    exact (each item isItem).answered application inside

theorem events_free (unfailing : Unfailing strict plain) {event : Event}
    (member : event ∈ (Pass.ofApplications plain).events) : ¬event.IsRuleFailure := by
  obtain ⟨application, inside, told⟩ := List.mem_flatMap.mp member
  exact (unfailing.answered application inside).events_free told

end Unfailing

namespace Strict

/-- The verdict of a check; its rule fails where the check stops. -/
def settle {κ : Type} : Strict (Answer κ) → Verdict (Finding κ)
  | .ok answer => answer.verdict
  | .error fault => .failed fault.reason

def rule {κ : Type} (name : String) (inspects : Kind → Bool)
    (check : Site → Context → Strict (Answer κ)) : Rule Context (Finding κ) :=
  ⟨name, inspects, fun site context => settle (check site context)⟩

def optimizationRule (category : Optimization.Category) (inspects : Kind → Bool)
    (check : Site → Context → Strict (Answer Optimization.Category)) :
    Rule Context (Finding Optimization.Category) :=
  rule category.name inspects check

def securityRule (category : Security.Category) (inspects : Kind → Bool)
    (check : Site → Context → Strict (Answer Security.Category)) :
    Rule Context (Finding Security.Category) :=
  rule category.name inspects check

section
variable {γ κ : Type} {site start : Site} {context : Context} {plain : γ}

/-- At the site, the rule of a strict check gives the verdict of a plain rule, and neither fails. -/
structure Follows (site : Site) (context : Context) (plain : γ)
    (strict : Rule Context (Finding κ)) (rule : Rule γ (Finding κ)) : Prop where
  name : strict.name = rule.name
  inspects : strict.inspects = rule.inspects
  check : strict.check site context = rule.check site plain
  answered : (rule.apply site plain).Answered

theorem follows_rule {name : String} {inspects : Kind → Bool}
    {check : Site → Context → Strict (Answer κ)} {plainCheck : Site → γ → Verdict (Finding κ)}
    (gives : Gives (check site context) (plainCheck site plain)) :
    Follows site context plain (rule name inspects check) ⟨name, inspects, plainCheck⟩ := by
  obtain ⟨answer, ended, verdict⟩ := gives
  refine ⟨rfl, rfl, ?_, ?_⟩
  · change settle (check site context) = plainCheck site plain
    rw [ended, ← verdict]
    rfl
  · intro reason failed
    exact answer.verdict_ne_failed reason (verdict.trans failed)

theorem unfailing_map {strict : List (Rule Context (Finding κ))}
    {rules : List (Rule γ (Finding κ))}
    (follow : List.Forall₂ (Follows site context plain) strict rules) :
    Unfailing (strict.map (·.apply site context)) (rules.map (·.apply site plain)) := by
  induction follow with
  | nil => exact ⟨rfl, by simp⟩
  | @cons first rule _ _ follows _ ih =>
    have head : first.apply site context = rule.apply site plain := by
      rw [Rule.apply, Rule.apply, follows.name, follows.check]
    rw [List.map_cons, List.map_cons, head]
    exact ⟨by rw [ih.same], List.forall_mem_cons.mpr ⟨follows.answered, ih.answered⟩⟩

theorem unfailing_applyAll {strict : List (Rule Context (Finding κ))}
    {rules : List (Rule γ (Finding κ))}
    (follow : List.Forall₂ (Follows site context plain) strict rules) :
    Unfailing (Rule.applyAll strict context site) (Rule.applyAll rules plain site) := by
  have inspected : List.Forall₂ (Follows site context plain)
      (strict.filter (·.inspects site.kind)) (rules.filter (·.inspects site.kind)) := by
    refine List.rel_filter ?_ follow
    intro first rule follows
    dsimp only
    rw [follows.inspects]
  exact unfailing_map inspected

theorem unfailing_run {strict : List (Rule Context (Finding κ))}
    {rules : List (Rule γ (Finding κ))}
    (follow : ∀ site ∈ start.scope, List.Forall₂ (Follows site context plain) strict rules) :
    Unfailing (Rule.run strict start context) (Rule.run rules start plain) :=
  Unfailing.flatMap fun site member => unfailing_applyAll (follow site member)

end

def optimizationNodeRules : List (Rule Context (Finding Optimization.Category)) := [
  optimizationRule .unusedVariable (· == .variableDeclarator) unusedVariable,
  optimizationRule .uninitializedVariable (· == .variableDeclarator) uninitializedVariable,
  optimizationRule .stringConcatenationInLoop (· == .assignmentExpression)
    stringConcatenationInLoop,
  optimizationRule .loopInvariantCalculation (· == .methodInvocation) loopInvariantCalculation,
  optimizationRule .unnecessaryObjectCreation (· == .objectCreationExpression)
    unnecessaryObjectCreation,
  optimizationRule .wrapperObjectCreation (· == .objectCreationExpression) wrapperObjectCreation,
  optimizationRule .divisionOptimization (· == .binaryExpression) division,
  optimizationRule .inefficientLoop (· == .forStatement) inefficientLoop,
  optimizationRule .infiniteLoop (· == .whileStatement) infiniteLoop,
  optimizationRule .redundantCondition (· == .ifStatement) redundantCondition]

def optimizationMethodRules (limits : Limits) :
    List (Rule Context (Finding Optimization.Category)) := [
  optimizationRule .emptyMethod (· == .methodDeclaration) emptyMethod,
  optimizationRule .tooManyParameters Kind.isMethod (tooManyParameters limits),
  optimizationRule .highCyclomaticComplexity Kind.isMethod (highCyclomaticComplexity limits)]

def fieldRules : List (Rule Context (Finding Security.Category)) := [
  securityRule .hardcodedCredentials Kind.isField credentialField]

def initializerRules : List (Rule Context (Finding Security.Category)) := [
  securityRule .hardcodedCredentials (· == .stringLiteral) credentialLiteral,
  securityRule .weakRandom (· == .objectCreationExpression) weakRandom]

def securityNodeRules : List (Rule Context (Finding Security.Category)) := [
  securityRule .hardcodedCredentials (· == .stringLiteral) credentialLiteral,
  securityRule .commandInjection (· == .methodInvocation) commandInjection,
  securityRule .dangerousMethodCall (· == .methodInvocation) dangerousMethodCall,
  securityRule .sqlInjection (· == .methodInvocation) sqlInjection,
  securityRule .dynamicSqlConstruction (· == .methodInvocation) dynamicSqlConstruction,
  securityRule .pathTraversal (· == .objectCreationExpression) pathTraversal,
  securityRule .weakRandom (· == .objectCreationExpression) weakRandom,
  securityRule .sensitiveDataExposure (· == .localVariableDeclaration) sensitiveDataExposure,
  securityRule .arrayBoundsCheck (· == .arrayAccess) arrayBoundsCheck,
  securityRule .unsafeCasting (· == .castExpression) unsafeCasting,
  securityRule .emptyCatchBlock (· == .catchClause) emptyCatchBlock,
  securityRule .poorExceptionHandling (· == .catchClause) poorExceptionHandling]

def dereferenceRule : Rule Context (Finding Security.Category) :=
  securityRule .nullPointerDereference (· == .methodInvocation) nullPointerDereference

section
variable {site : Site} {context : MethodContext}

theorem optimizationNodeRules_follow (deep : 2 ≤ site.above.length) :
    List.Forall₂ (Follows site (.method context) context) optimizationNodeRules
      Optimization.nodeRules :=
  .cons (follows_rule (unusedVariable_gives site context)) <|
  .cons (follows_rule (uninitializedVariable_gives site _ context)) <|
  .cons (follows_rule (stringConcatenationInLoop_gives site context)) <|
  .cons (follows_rule (loopInvariantCalculation_gives site _ context)) <|
  .cons (follows_rule (unnecessaryObjectCreation_gives site _ context)) <|
  .cons (follows_rule (wrapperObjectCreation_gives deep _ context)) <|
  .cons (follows_rule (division_gives site _ context)) <|
  .cons (follows_rule (inefficientLoop_gives site _ context)) <|
  .cons (follows_rule (infiniteLoop_gives site _ context)) <|
  .cons (follows_rule (redundantCondition_gives site _ context)) .nil

theorem optimizationMethodRules_follow (limits : Limits) :
    List.Forall₂ (Follows site (.method context) context) (optimizationMethodRules limits)
      (Optimization.methodRules limits) :=
  .cons (follows_rule (emptyMethod_gives site _ context)) <|
  .cons (follows_rule (tooManyParameters_gives limits site _ context)) <|
  .cons (follows_rule (highCyclomaticComplexity_gives limits site context)) .nil

theorem fieldRules_follow :
    List.Forall₂ (Follows site .absent ()) fieldRules Security.fieldRules :=
  .cons (follows_rule (credentialField_gives site _ _)) .nil

theorem initializerRules_follow :
    List.Forall₂ (Follows site .absent ()) initializerRules Security.initializerRules :=
  .cons (follows_rule (credentialLiteral_gives site _ _)) <|
  .cons (follows_rule (weakRandom_gives site _ _)) .nil

theorem securityNodeRules_follow {body : Site} (hasBody : context.method.body? = some body) :
    List.Forall₂ (Follows site (.method context) context) securityNodeRules Security.nodeRules :=
  .cons (follows_rule (credentialLiteral_gives site _ _)) <|
  .cons (follows_rule (commandInjection_gives site context)) <|
  .cons (follows_rule (dangerousMethodCall_gives site context)) <|
  .cons (follows_rule (sqlInjection_gives site context)) <|
  .cons (follows_rule (dynamicSqlConstruction_gives hasBody site)) <|
  .cons (follows_rule (pathTraversal_gives site context)) <|
  .cons (follows_rule (weakRandom_gives site _ _)) <|
  .cons (follows_rule (sensitiveDataExposure_gives site _ context)) <|
  .cons (follows_rule (arrayBoundsCheck_gives site context)) <|
  .cons (follows_rule (unsafeCasting_gives site context)) <|
  .cons (follows_rule (emptyCatchBlock_gives site _ context)) <|
  .cons (follows_rule (poorExceptionHandling_gives site _ context)) .nil

theorem dereferenceRule_follows (context : Security.DereferenceContext) :
    List.Forall₂ (Follows site (.dereference context) context) [dereferenceRule]
      [Security.dereferenceRule] :=
  .cons (follows_rule (nullPointerDereference_gives site context)) .nil

end

def fieldApplications (declaration : Site) : List (Application (Finding Security.Category)) :=
  fieldRules.map (·.apply declaration .absent) ++ Rule.run initializerRules declaration .absent

def optimizationApplications (limits : Limits) (context : MethodContext) :
    List (Application (Finding Optimization.Category)) :=
  (context.method.body?.map fun body =>
      Rule.run optimizationNodeRules body (.method context)).getD [] ++
    Rule.applyAll (optimizationMethodRules limits) (.method context) context.method

def bodyApplications (context : MethodContext) (body : Site) (flaggedLines : List Int) :
    List (Application (Finding Security.Category)) :=
  let direct := Rule.run securityNodeRules body (.method context)
  direct ++ Rule.run [dereferenceRule] body (.dereference
    (Security.dereferenceContext context body flaggedLines (direct.flatMap (·.findings))))

end Strict

def Security.bodyApplications (context : MethodContext) (body : Site) (flaggedLines : List Int) :
    List (Application (Finding Category)) :=
  let direct := Rule.run nodeRules body context
  direct ++ Rule.run [dereferenceRule] body
    (dereferenceContext context body flaggedLines (direct.flatMap (·.findings)))

/-- A node of the body of a method has a parent, and its parent has one. -/
theorem Site.two_le_length_above {method body site : Site} (hasBody : method.body? = some body)
    (member : site ∈ body.scope) : 2 ≤ site.above.length := by
  obtain ⟨between, index, above, _⟩ := reaches_of_mem_walk member
  obtain ⟨position, aboveBody⟩ := above_of_mem_children (List.mem_of_find?_eq_some hasBody)
  rw [above, aboveBody]
  simp only [List.length_append, List.length_cons]
  omega

namespace Analysis

theorem fieldApplications_unfailing (declaration : Site) :
    Unfailing (Strict.fieldApplications declaration) (Security.fieldApplications declaration) :=
  (Strict.unfailing_map Strict.fieldRules_follow).append
    (Strict.unfailing_run fun _ _ => Strict.initializerRules_follow)

theorem optimizationApplications_unfailing (limits : Limits) (context : MethodContext) :
    Unfailing (Strict.optimizationApplications limits context)
      (Optimization.applications limits context) := by
  unfold Strict.optimizationApplications Optimization.applications
  refine .append ?_ (Strict.unfailing_applyAll (Strict.optimizationMethodRules_follow limits))
  cases hasBody : context.method.body? with
  | none => exact ⟨rfl, by simp⟩
  | some body =>
    refine Strict.unfailing_run fun site member => ?_
    exact Strict.optimizationNodeRules_follow (Site.two_le_length_above hasBody member)

theorem bodyApplications_unfailing {context : MethodContext} {body : Site}
    (hasBody : context.method.body? = some body) (flaggedLines : List Int) :
    Unfailing (Strict.bodyApplications context body flaggedLines)
      (Security.bodyApplications context body flaggedLines) := by
  have direct : Unfailing (Rule.run Strict.securityNodeRules body (.method context))
      (Rule.run Security.nodeRules body context) :=
    Strict.unfailing_run fun _ _ => Strict.securityNodeRules_follow hasBody
  have deferred (context : Security.DereferenceContext) :
      Unfailing (Rule.run [Strict.dereferenceRule] body (.dereference context))
        (Rule.run [Security.dereferenceRule] body context) :=
    Strict.unfailing_run fun _ _ => Strict.dereferenceRule_follows context
  -- The lines flagged by the direct findings are the same, so the contexts of the search are.
  unfold Strict.bodyApplications Security.bodyApplications
  rw [direct.same]
  exact .append ⟨rfl, direct.answered⟩ (deferred _)

section
variable {event : Event}

theorem fields_events_free {tree : Node}
    (member : event ∈ (Security.analyzeFields (.root tree)).events) : ¬event.IsRuleFailure :=
  (Unfailing.flatMap fun declaration _ => fieldApplications_unfailing declaration).events_free
    member

theorem optimization_events_free {limits : Limits} {context : MethodContext}
    (member : event ∈ (Optimization.analyzeMethod limits context).events) :
    ¬event.IsRuleFailure := by
  rcases List.mem_append.mp member with told | last
  · exact (optimizationApplications_unfailing limits context).events_free told
  · rw [List.mem_singleton.mp last]
    nofun

theorem security_events_free {context : MethodContext} {flaggedLines : List Int}
    (member : event ∈ (Security.analyzeMethod context flaggedLines).events) :
    ¬event.IsRuleFailure := by
  unfold Security.analyzeMethod at member
  cases hasBody : context.method.body? with
  | none =>
    rw [hasBody] at member
    cases member
  | some body =>
    rw [hasBody] at member
    rcases List.mem_append.mp member with told | last
    · exact (bodyApplications_unfailing hasBody flaggedLines).events_free told
    · rw [List.mem_singleton.mp last]
      nofun

end

section
variable {S : Type} [Scalar S]

theorem progress_free {settings : Settings S} {fields : Pass (Finding Security.Category)}
    {methods : List MethodPasses} {report : Report S}
    (ofFields : ∀ event ∈ fields.events, ¬event.IsRuleFailure)
    (ofMethods : ∀ passes ∈ methods,
      ∀ event ∈ passes.optimization.events ++ passes.security.events, ¬event.IsRuleFailure) :
    ∀ event ∈ progress settings fields methods report, ¬event.IsRuleFailure := by
  intro event member
  simp only [progress, List.mem_append, List.mem_cons, List.not_mem_nil, or_false] at member
  rcases member with ((((rfl | rfl) | inFields) | inMethods) | dropped) | rfl
  · nofun
  · nofun
  · exact ofFields event inFields
  · obtain ⟨passes, isPass, inside⟩ := List.mem_flatMap.mp inMethods
    exact ofMethods passes isPass event inside
  · obtain ⟨run, _, rfl⟩ := List.mem_map.mp dropped
    nofun
  · nofun

theorem analyzeRoot_free (settings : Settings S) (path : String) (tree : Node) :
    ∀ event ∈ (analyzeRoot settings path (.root tree)).events, ¬event.IsRuleFailure := by
  rw [analyzeRoot_eq]
  refine progress_free (fun event => fields_events_free) ?_
  intro passes isPass event member
  obtain ⟨context, _, rfl⟩ := List.mem_map.mp isPass
  rcases List.mem_append.mp member with ofOptimization | ofSecurity
  · exact optimization_events_free ofOptimization
  · exact security_events_free ofSecurity

/-- In an analysis of a tree, damaged or not, every rule comes to an end at every node to which it
is applied. Evaluated with checks in which each access to a child, an ancestor, an item or the
context stops where there is nothing, the rules for fields, for wasteful code and for vulnerable
code give what they give without, so no rule fails and no failure is told. -/
theorem rules_come_to_an_end (settings : Settings S) (path : String) (tree : Node) :
    (∀ declaration ∈ tree.fieldDeclarations,
        Unfailing (Strict.fieldApplications declaration)
          (Security.fieldApplications declaration)) ∧
      (∀ context ∈ contexts tree,
        Unfailing (Strict.optimizationApplications settings.limits context)
          (Optimization.applications settings.limits context) ∧
        ∀ body, context.method.body? = some body → ∀ flaggedLines,
          Unfailing (Strict.bodyApplications context body flaggedLines)
            (Security.bodyApplications context body flaggedLines)) ∧
      ∀ event ∈ (analyze settings path (some tree)).events, ¬event.IsRuleFailure := by
  refine ⟨fun declaration _ => fieldApplications_unfailing declaration, ?_, ?_⟩
  · intro context _
    exact ⟨optimizationApplications_unfailing settings.limits context,
      fun body hasBody flaggedLines => bodyApplications_unfailing hasBody flaggedLines⟩
  · intro event member
    simp only [analyze] at member
    split at member
    · cases member
    · split at member
      · cases member
      · exact analyzeRoot_free settings path tree event member

end

end Analysis

end JavaAudit
