import Mathlib.Logic.Basic
import JavaAudit.Optimization.Check
import JavaAudit.Proofs.StrictReading

/-! The checks for wasteful code as strict readings.

Each check is written with the accesses that it makes and the tests that stand before them, in the
order in which it makes them. It comes to an end with the verdict of the plain check; one access
has no test before it and asks for a node that is deep enough in its tree. -/

set_option autoImplicit false

namespace JavaAudit.Strict

@[simp] theorem Answer.verdict_silent :
    (silent : Answer Optimization.Category).verdict = Optimization.silent := rfl

@[simp] theorem Answer.verdict_report (category : Optimization.Category) (description : String)
    (site : Site) (snippet : String) (severity : Severity) :
    (report category description site snippet severity).verdict =
      Optimization.report category description site snippet severity := rfl

def isLocalDeclarator (site : Site) : Strict Bool :=
  both site.parent?.isSome do
    return (← node site.parent?).kind == .localVariableDeclaration

def unusedVariable (site : Site) (context : Context) : Strict (Answer Optimization.Category) := do
  if !(← isLocalDeclarator site) then return .silent
  let name ← textOf (site.child? .name)
  let scope := (← context.ofMethod).scope
  if ← either (scope.isExempt name) (controlsLoopAmong site site.ancestors) then
    return .silent
  if scope.used.contains name || Usage.isUsedIn name scope.bodyText then
    return .silent
  return .report .unusedVariable
    s!"Local variable '{name}' is declared but never used" site (← render (some site)) .low

/-- The parent is read without a test; only a local declarator gets that far. -/
def uninitializedVariable (site : Site) (_ : Context) : Strict (Answer Optimization.Category) := do
  if !(← isLocalDeclarator site) || (site.child? .value).isSome then return .silent
  let name ← textOf (site.child? .name)
  let type ← textOf ((← node site.parent?).child? .type)
  if Vocabulary.isPrimitiveType type || ["line", "data", "input"].contains name then
    return .silent
  let isForLoop := fun kind => kind == .forStatement || kind == .enhancedForStatement
  if (site.enclosing? isForLoop Optimization.boundsMethod).isSome then return .silent
  return .report .uninitializedVariable
    s!"Variable '{name}' declared without initialization" site (← render (some site)) .low

@[simp] theorem isLocalDeclarator_eq (site : Site) :
    isLocalDeclarator site = pure (Optimization.isLocalDeclarator site) :=
  both_isSome _ _

theorem unusedVariable_gives (site : Site) (context : MethodContext) :
    Gives (unusedVariable site (.method context)) (Optimization.unusedVariable site context) := by
  simp only [unusedVariable, isLocalDeclarator_eq, textOf_child?, Context.ofMethod_method,
    controlsLoopAmong_eq, render_eq, pure_bind, either_pure, ite_pure, gives_pure]
  simp only [Optimization.unusedVariable, Bool.or_eq_true, ite_or, Answer.verdict_ite]
  rfl

theorem uninitializedVariable_gives (site : Site) (context : Context) (plain : MethodContext) :
    Gives (uninitializedVariable site context) (Optimization.uninitializedVariable site plain) := by
  cases parent : site.parent? with
  | none =>
    have isFree : Optimization.isLocalDeclarator site = false := by
      rw [Optimization.isLocalDeclarator, parent]
      rfl
    simp [uninitializedVariable, Optimization.uninitializedVariable, isFree]
  | some parent =>
    simp only [uninitializedVariable, isLocalDeclarator_eq, parent, node_some, textOf_child?,
      render_eq, pure_bind, ite_pure, gives_pure]
    simp only [Optimization.uninitializedVariable, parent, Bool.or_eq_true, ite_or,
      Answer.verdict_ite]
    rfl

def isPrintedOrLogged (site : Site) : Strict Bool :=
  (site.ancestorsUpTo Kind.isStatement).anyM fun ancestor => do
    if ancestor.kind != .methodInvocation then return false
    if Text.contains (← textOf (ancestor.child? .name)) "print" then return true
    return Vocabulary.mentions ["log", "debug", "info", "error"] (← render (some ancestor))

/-- Does an assignment to `target` append to a string? The first operand is read after the
operands are counted. -/
def appendsString (site : Site) (scope : Scope) (target : String) : Strict Bool := do
  let operator ← textOf (site.child? .operator)
  let value ← unwrapOf (site.child? .right)
  if operator == "+=" then
    either (scope.isStringTyped target) (both value.isSome do
      return (← node value).kind == .stringLiteral)
  else if operator == "=" then
    let operands ← operands value
    if ← either (operands.length < 2) (do
        return (← identifierOf (some (← item operands 0))) != some target) then
      return false
    either (scope.isStringTyped target) ((operands.drop 1).anyM fun operand =>
      either (operand.kind == .stringLiteral) do
        return scope.isStringTyped ((← identifierOf (some operand)).getD ""))
  else return false

def stringConcatenationInLoop (site : Site) (context : Context) :
    Strict (Answer Optimization.Category) := do
  if !site.isInsideLoop then return .silent
  match nonempty? (← identifierOf (site.child? .left)) with
  | none => return .silent
  | some target =>
    let scope := (← context.ofMethod).scope
    if ← either (!(← appendsString site scope target)) (isPrintedOrLogged site) then
      return .silent
    return .report .stringConcatenationInLoop
      "String concatenation inside loop may impact performance" site (← render (some site)) .high

@[simp] theorem isPrintedOrLogged_eq (site : Site) :
    isPrintedOrLogged site = pure (Optimization.isPrintedOrLogged site) := by
  unfold isPrintedOrLogged Optimization.isPrintedOrLogged
  rw [← List.anyM_pure]
  congr 1
  funext ancestor
  simp only [textOf_child?, render_eq, pure_bind, ite_pure]
  cases called : ancestor.kind == .methodInvocation with
  | false => simp [bne, called]
  | true =>
    simp [bne, called, renderOf]
    rfl

@[simp] theorem appendsString_eq (site : Site) (scope : Scope) (target : String) :
    appendsString site scope target = pure (Optimization.appendsString site scope target) := by
  have joins : (fun operand : Site => either (operand.kind == .stringLiteral) do
        return scope.isStringTyped ((← identifierOf (some operand)).getD "")) =
      fun operand => pure (operand.kind == .stringLiteral ||
        scope.isStringTyped (operand.identifier?.getD "")) := by
    funext operand
    rw [identifierOf_eq, pure_bind, either_pure]
    rfl
  simp only [appendsString, Optimization.appendsString, textOf_child?, unwrapOf_eq, both_isSome,
    operands_eq, pure_bind, either_pure, joins, List.anyM_pure]
  generalize (site.child? .right).bind Site.unwrap? = value
  generalize site.childText .operator = operator
  by_cases adds : operator = "+="
  · subst adds
    rfl
  · by_cases assigns : operator = "="
    · subst assigns
      -- The operands are counted before the first of them is read.
      rcases (value.map Site.plusOperands).getD [] with _ | ⟨first, _ | ⟨second, rest⟩⟩
      · rfl
      · rfl
      · have counted : ¬rest.length + 1 + 1 < 2 := by omega
        simp [counted, bne]
    · simp [adds, assigns]

theorem stringConcatenationInLoop_gives (site : Site) (context : MethodContext) :
    Gives (stringConcatenationInLoop site (.method context))
      (Optimization.stringConcatenationInLoop site context) := by
  simp only [stringConcatenationInLoop, identifierOf_eq, Context.ofMethod_method, appendsString_eq,
    isPrintedOrLogged_eq, render_eq, pure_bind, either_pure, ite_pure]
  unfold Optimization.stringConcatenationInLoop
  cases nonempty? ((site.child? .left).bind Site.identifier?) with
  | none => simp
  | some target =>
    simp only [Bool.or_eq_true, ite_or, ite_pure, gives_pure, Answer.verdict_ite]
    rfl

def isInWhileBody (site : Site) : Strict Bool :=
  (site.ancestorsUpTo Optimization.boundsMethod).anyM fun ancestor =>
    both (ancestor.kind == .whileStatement) (isWithin site (ancestor.child? .body))

def loopInvariantCalculation (site : Site) (_ : Context) :
    Strict (Answer Optimization.Category) := do
  let name ← textOf (site.child? .name)
  let receiver ← identifierOf (site.child? .object)
  if !(["pow", "sqrt", "sin", "cos", "log", "exp"].contains name)
      || !receiver.any ["Math", "StrictMath"].contains then
    return .silent
  if !(← isInWhileBody site) then return .silent
  return .report .loopInvariantCalculation
    s!"Expensive calculation inside loop: {name}" site (← render (some site)) .medium

@[simp] theorem isInWhileBody_eq (site : Site) :
    isInWhileBody site = pure (Optimization.isInWhileBody site) := by
  unfold isInWhileBody Optimization.isInWhileBody
  rw [← List.anyM_pure]
  congr 1
  funext ancestor
  rw [isWithin_eq, both_pure, ← Site.map_node_child?, Option.any_map]

theorem loopInvariantCalculation_gives (site : Site) (context : Context) (plain : MethodContext) :
    Gives (loopInvariantCalculation site context)
      (Optimization.loopInvariantCalculation site plain) := by
  simp only [loopInvariantCalculation, textOf_child?, identifierOf_eq, isInWhileBody_eq, render_eq,
    pure_bind, ite_pure, gives_pure]
  simp only [Optimization.loopInvariantCalculation, Bool.or_eq_true, ite_or, Answer.verdict_ite]
  rfl

def unnecessaryObjectCreation (site : Site) (_ : Context) :
    Strict (Answer Optimization.Category) := do
  if ← either ((← createdTypeName site) != "String") (do
      return !(← partsOf (site.child? .arguments)).isEmpty) then
    return .silent
  return .report .unnecessaryObjectCreation "Unnecessary String object creation" site
    (← render (some site)) .low

/-- The parent of an argument list is read without a test. -/
def wrapperObjectCreation (site : Site) (_ : Context) : Strict (Answer Optimization.Category) := do
  if ← either (!Optimization.isWrapperType (← createdTypeName site)) (do
      return (← partsOf (site.child? .arguments)).length != 1) then
    return .silent
  if ← both site.parent?.isSome (do
      let parent ← node site.parent?
      both (parent.kind == .argumentList) do
        return Optimization.isCall (← node parent.parent?).kind) then
    return .silent
  return .report .wrapperObjectCreation
    "Consider using valueOf() method for wrapper objects" site (← render (some site)) .low

theorem unnecessaryObjectCreation_gives (site : Site) (context : Context) (plain : MethodContext) :
    Gives (unnecessaryObjectCreation site context)
      (Optimization.unnecessaryObjectCreation site plain) := by
  simp only [unnecessaryObjectCreation, createdTypeName_eq, partsOf_eq, render_eq, pure_bind,
    either_pure, ite_pure, gives_pure, Answer.verdict_ite]
  rfl

theorem wrapperObjectCreation_gives {site : Site} (deep : 2 ≤ site.above.length) (context : Context)
    (plain : MethodContext) :
    Gives (wrapperObjectCreation site context) (Optimization.wrapperObjectCreation site plain) := by
  obtain ⟨inner, above⟩ := site
  obtain ⟨parent, grandparent, rest, rfl⟩ : ∃ parent grandparent rest,
      above = parent :: grandparent :: rest := by
    match above, deep with
    | parent :: grandparent :: rest, _ => exact ⟨parent, grandparent, rest, rfl⟩
  simp only [wrapperObjectCreation, createdTypeName_eq, partsOf_eq, render_eq, pure_bind,
    either_pure, ite_pure, Site.parent?, Option.isSome_some, node_some, both_pure]
  simp only [Optimization.wrapperObjectCreation, Bool.true_and]
  by_cases inList : parent.node.kind = .argumentList <;>
    simp [Site.kind, inList, Site.arguments, renderOf]

/-- The depth is needed: the check stops at a wrapper in an argument list that is the root. -/
theorem wrapperObjectCreation_stops {inner list : Node} {index : Nat} (context : Context)
    (inList : list.kind = .argumentList)
    (isWrapper : Optimization.isWrapperType (Site.createdTypeName ⟨inner, [⟨list, index⟩]⟩) = true)
    (single : (Site.arguments ⟨inner, [⟨list, index⟩]⟩).length = 1) :
    wrapperObjectCreation ⟨inner, [⟨list, index⟩]⟩ context = throw .absentNode := by
  unfold Site.arguments at single
  simp only [wrapperObjectCreation, createdTypeName_eq, partsOf_eq, isWrapper, single, pure_bind,
    either_pure]
  simp only [Site.parent?, Site.kind, inList, Option.isSome_some, node_some, pure_bind]
  rfl

def division (site : Site) (_ : Context) : Strict (Answer Optimization.Category) := do
  if (← textOf (site.child? .operator)) != "/" then return .silent
  let divisor := site.child? .right
  if ← either divisor.isNone (do return !(← node divisor).kind.isIntegerLiteral) then
    return .silent
  match ← orMalformed (integer (← textOf divisor)) with
  | none => return .malformedLiteral (← node divisor).line
  | some value =>
    if value ≤ 1 || !IntLiteral.isPowerOfTwo value then return .silent
    return .report .divisionOptimization "Division by power of 2 can be optimized" site
      (← render (some site)) .low

theorem division_gives (site : Site) (context : Context) (plain : MethodContext) :
    Gives (division site context) (Optimization.division site plain) := by
  unfold division Optimization.division
  cases site.child? .right with
  | none => simp
  | some divisor =>
    have written : textOf (some divisor) = pure divisor.text := rfl
    simp only [textOf_child?, written, Option.isNone_some, either_false, node_some,
      orMalformed_integer, render_eq, pure_bind, ite_pure, Bool.or_eq_true, ite_or]
    cases IntLiteral.value? divisor.text <;>
      simp only [ite_pure, gives_pure, Answer.verdict_ite] <;> rfl

def inefficientLoop (site : Site) (_ : Context) : Strict (Answer Optimization.Category) := do
  let condition ← unwrapOf (site.child? .condition)
  if ← either condition.isNone (do return (← node condition).kind != .binaryExpression) then
    return .silent
  let bound := (← node condition).child? .right
  if ← either bound.isNone (do return (← node bound).kind != .methodInvocation) then
    return .silent
  let name ← textOf ((← node bound).child? .name)
  let receiver := (← node bound).child? .object
  if ← either (!(["size", "length"].contains name)) (do
      return (nonempty? (← identifierOf receiver)).isSome) then
    return .silent
  return .report .inefficientLoop
    s!"Method call '{name}()' in loop condition may be inefficient" site (← render condition)
    .medium

theorem inefficientLoop_gives (site : Site) (context : Context) (plain : MethodContext) :
    Gives (inefficientLoop site context) (Optimization.inefficientLoop site plain) := by
  simp only [inefficientLoop, Optimization.inefficientLoop, unwrapOf_eq, pure_bind]
  cases (site.child? .condition).bind Site.unwrap? with
  | none => exact ⟨.silent, rfl, rfl⟩
  | some condition =>
    simp only [Option.isNone_some, either_false, node_some, pure_bind]
    cases condition.child? .right with
    | none => simp
    | some bound =>
      simp only [Option.isNone_some, node_some, textOf_child?, identifierOf_eq, render_eq,
        pure_bind, either_pure, ite_pure, Bool.false_or, Bool.or_eq_true, ite_or, gives_pure,
        Answer.verdict_ite]
      rfl

def infiniteLoop (site : Site) (_ : Context) : Strict (Answer Optimization.Category) := do
  let condition ← unwrapOf (site.child? .condition)
  if ← either condition.isNone (do return (← node condition).kind != .trueLiteral) then
    return .silent
  if ← both site.body?.isSome (do return Optimization.hasBreak (← node site.body?)) then
    return .silent
  return .report .infiniteLoop
    "Potential infinite loop detected - no break statement found" site (← render (some site)) .high

theorem infiniteLoop_gives (site : Site) (context : Context) (plain : MethodContext) :
    Gives (infiniteLoop site context) (Optimization.infiniteLoop site plain) := by
  simp only [infiniteLoop, Optimization.infiniteLoop, unwrapOf_eq, both_isSome, render_eq,
    pure_bind, ite_pure]
  cases (site.child? .condition).bind Site.unwrap? with
  | none => exact ⟨.silent, rfl, rfl⟩
  | some condition =>
    simp only [Option.isNone_some, either_false, node_some, pure_bind, Bool.or_eq_true, ite_or,
      gives_pure, Answer.verdict_ite]
    rfl

def redundantCondition (site : Site) (_ : Context) : Strict (Answer Optimization.Category) := do
  let condition := site.child? .condition
  if !(← isBooleanLiteral condition) then return .silent
  return .report .redundantCondition "If statement with constant boolean condition"
    site (← render (← unwrapOf condition)) .low

theorem redundantCondition_gives (site : Site) (context : Context) (plain : MethodContext) :
    Gives (redundantCondition site context) (Optimization.redundantCondition site plain) := by
  simp only [redundantCondition, isBooleanLiteral_eq, unwrapOf_eq, render_eq, pure_bind, ite_pure,
    gives_pure, Answer.verdict_ite]
  rfl

def emptyMethod (method : Site) (_ : Context) : Strict (Answer Optimization.Category) := do
  if ← either method.body?.isNone (do
      return !(← partsOf method.body?).isEmpty || method.modifiers.contains "abstract") then
    return .silent
  return .report .emptyMethod "Method has empty body" method (← renderHeader method)
    .low

theorem emptyMethod_gives (method : Site) (context : Context) (plain : MethodContext) :
    Gives (emptyMethod method context) (Optimization.emptyMethod method plain) := by
  unfold emptyMethod Optimization.emptyMethod
  cases method.body? with
  | none => exact ⟨.silent, rfl, rfl⟩
  | some body =>
    simp only [Option.isNone_some, either_false, partsOf_eq, renderHeader_eq, pure_bind, ite_pure,
      gives_pure, Answer.verdict_ite]
    rfl

def parametersOf (method : Site) : Strict (List Parameter) := do
  if (method.child? .parameters).isNone then return []
  return (← node (method.child? .parameters)).namedChildren.filterMap Site.parameter?

def tooManyParameters (limits : Limits) (method : Site) (_ : Context) :
    Strict (Answer Optimization.Category) := do
  let count := (← parametersOf method).length
  if (count : Int) ≤ limits.parameters then return .silent
  return .report .tooManyParameters s!"Method has too many parameters ({count})" method
    (← renderHeader method) .medium

@[simp] theorem parametersOf_eq (method : Site) : parametersOf method = pure method.parameters := by
  unfold parametersOf Site.parameters
  cases method.child? .parameters <;> rfl

theorem tooManyParameters_gives (limits : Limits) (method : Site) (context : Context)
    (plain : MethodContext) :
    Gives (tooManyParameters limits method context)
      (Optimization.tooManyParameters limits method plain) := by
  simp only [tooManyParameters, parametersOf_eq, renderHeader_eq, pure_bind, ite_pure, gives_pure,
    Answer.verdict_ite]
  rfl

def highCyclomaticComplexity (limits : Limits) (method : Site) (context : Context) :
    Strict (Answer Optimization.Category) := do
  let complexity := (← context.ofMethod).complexity.cyclomatic
  if (complexity : Int) ≤ limits.complexity then return .silent
  let name ← textOf (method.child? .name)
  return .report .highCyclomaticComplexity
    s!"Method '{name}' has high cyclomatic complexity: {complexity}" method
    (← renderHeader method) (if limits.highComplexity < complexity then .high else .medium)

theorem highCyclomaticComplexity_gives (limits : Limits) (method : Site) (context : MethodContext) :
    Gives (highCyclomaticComplexity limits method (.method context))
      (Optimization.highCyclomaticComplexity limits method context) := by
  simp only [highCyclomaticComplexity, Context.ofMethod_method, textOf_child?, renderHeader_eq,
    pure_bind, ite_pure, gives_pure, Answer.verdict_ite]
  rfl

end JavaAudit.Strict
