import JavaAudit.Finding
import JavaAudit.Numeral.Integer
import JavaAudit.Rule

/-! Checks for wasteful code. -/

set_option autoImplicit false

namespace JavaAudit

structure Limits where
  complexity : Int := 10
  /-- Complexity above which the finding is severe. -/
  highComplexity : Int := 20
  parameters : Int := 7
  deriving DecidableEq, Repr

namespace Optimization

inductive Category where
  | unusedVariable
  | uninitializedVariable
  | stringConcatenationInLoop
  | loopInvariantCalculation
  | unnecessaryObjectCreation
  | wrapperObjectCreation
  | divisionOptimization
  | inefficientLoop
  | infiniteLoop
  | redundantCondition
  | emptyMethod
  | tooManyParameters
  | highCyclomaticComplexity
  deriving DecidableEq, Repr

def Category.name : Category → String
  | .unusedVariable => "UNUSED_VARIABLE"
  | .uninitializedVariable => "UNINITIALIZED_VARIABLE"
  | .stringConcatenationInLoop => "STRING_CONCATENATION_IN_LOOP"
  | .loopInvariantCalculation => "LOOP_INVARIANT_CALCULATION"
  | .unnecessaryObjectCreation => "UNNECESSARY_OBJECT_CREATION"
  | .wrapperObjectCreation => "WRAPPER_OBJECT_CREATION"
  | .divisionOptimization => "DIVISION_OPTIMIZATION"
  | .inefficientLoop => "INEFFICIENT_LOOP"
  | .infiniteLoop => "INFINITE_LOOP"
  | .redundantCondition => "REDUNDANT_CONDITION"
  | .emptyMethod => "EMPTY_METHOD"
  | .tooManyParameters => "TOO_MANY_PARAMETERS"
  | .highCyclomaticComplexity => "HIGH_CYCLOMATIC_COMPLEXITY"

abbrev Report := Verdict (Finding Category)

def silent : Report :=
  .findings []

def report (category : Category) (description : String) (site : Site) (snippet : String)
    (severity : Severity) : Report :=
  .findings [⟨category, description, site.line, snippet, severity⟩]

/-- The bounds of a method: its own declaration, and the bodies of types nested in it. -/
def boundsMethod (kind : Kind) : Bool :=
  kind.isTypeBody || kind.isMethod

def isLocalDeclarator (site : Site) : Bool :=
  site.parent?.any (·.kind == .localVariableDeclaration)

/-- A local that is neither used by an identifier nor mentioned in the rendered body. -/
def unusedVariable (site : Site) (context : MethodContext) : Report :=
  let name := site.declaredName
  let scope := context.scope
  if !isLocalDeclarator site || scope.isExempt name || site.isLoopControl
      || scope.used.contains name || Usage.isUsedIn name scope.bodyText then silent
  else
    report .unusedVariable s!"Local variable '{name}' is declared but never used" site
      site.render .low

/-- A local of a reference type without a value, unless a loop is expected to fill it. -/
def uninitializedVariable (site : Site) (_ : MethodContext) : Report :=
  let name := site.declaredName
  let type := (site.parent?.map (·.childText .type)).getD ""
  let isForLoop := fun kind => kind == .forStatement || kind == .enhancedForStatement
  if !isLocalDeclarator site || (site.child? .value).isSome || Vocabulary.isPrimitiveType type
      || ["line", "data", "input"].contains name
      || (site.enclosing? isForLoop boundsMethod).isSome then silent
  else
    report .uninitializedVariable s!"Variable '{name}' declared without initialization" site
      site.render .low

def isPrintedOrLogged (site : Site) : Bool :=
  (site.ancestorsUpTo Kind.isStatement).any fun ancestor =>
    ancestor.kind == .methodInvocation &&
      (Text.contains ancestor.callName "print" ||
        Vocabulary.mentions ["log", "debug", "info", "error"] ancestor.render)

def appendsString (site : Site) (scope : Scope) (target : String) : Bool :=
  let value := (site.child? .right).bind Site.unwrap?
  match site.childText .operator with
  | "+=" => scope.isStringTyped target || value.any (·.kind == .stringLiteral)
  | "=" =>
    match (value.map Site.plusOperands).getD [] with
    | first :: second :: rest =>
      first.identifier? == some target &&
        (scope.isStringTyped target || (second :: rest).any fun operand =>
          operand.kind == .stringLiteral || scope.isStringTyped (operand.identifier?.getD ""))
    | _ => false
  | _ => false

def stringConcatenationInLoop (site : Site) (context : MethodContext) : Report :=
  match nonempty? ((site.child? .left).bind Site.identifier?) with
  | none => silent
  | some target =>
    if !site.isInsideLoop || !appendsString site context.scope target
        || isPrintedOrLogged site then silent
    else
      report .stringConcatenationInLoop "String concatenation inside loop may impact performance"
        site site.render .high

def isInWhileBody (site : Site) : Bool :=
  (site.ancestorsUpTo boundsMethod).any fun ancestor =>
    ancestor.kind == .whileStatement &&
      (ancestor.node.child? .body).any site.node.isWithin

def loopInvariantCalculation (site : Site) (_ : MethodContext) : Report :=
  let name := site.callName
  let receiver := (site.child? .object).bind Site.identifier?
  if !(["pow", "sqrt", "sin", "cos", "log", "exp"].contains name)
      || !receiver.any ["Math", "StrictMath"].contains || !isInWhileBody site then silent
  else
    report .loopInvariantCalculation s!"Expensive calculation inside loop: {name}" site
      site.render .medium

def unnecessaryObjectCreation (site : Site) (_ : MethodContext) : Report :=
  if site.createdTypeName != "String" || !site.arguments.isEmpty then silent
  else
    report .unnecessaryObjectCreation "Unnecessary String object creation" site site.render .low

def isWrapperType (type : String) : Bool :=
  ["Boolean", "Byte", "Short", "Integer", "Long", "Float", "Double"].contains type

def isCall : Kind → Bool
  | .methodInvocation | .objectCreationExpression | .explicitConstructorInvocation => true
  | _ => false

/-- A boxed number or truth value made by a constructor, other than as an argument of a call. -/
def wrapperObjectCreation (site : Site) (_ : MethodContext) : Report :=
  let found :=
    report .wrapperObjectCreation "Consider using valueOf() method for wrapper objects" site
      site.render .low
  if !isWrapperType site.createdTypeName || site.arguments.length != 1 then silent
  else
    match site.above with
    | parent :: rest =>
      if parent.node.kind != .argumentList then found
      else
        match rest with
        | call :: _ => if isCall call.node.kind then silent else found
        | [] => .failed "argument list without a call"
    | [] => found

/-- A division by a literal power of two greater than one. -/
def division (site : Site) (_ : MethodContext) : Report :=
  match site.child? .right with
  | none => silent
  | some divisor =>
    if site.childText .operator != "/" || !divisor.kind.isIntegerLiteral then silent
    else
      match IntLiteral.value? divisor.text with
      | none => .malformedLiteral divisor.line
      | some value =>
        if value ≤ 1 || !IntLiteral.isPowerOfTwo value then silent
        else
          report .divisionOptimization "Division by power of 2 can be optimized" site
            site.render .low

/-- A for loop that asks for a size in every turn, through more than a plain variable. -/
def inefficientLoop (site : Site) (_ : MethodContext) : Report :=
  match (site.child? .condition).bind Site.unwrap? with
  | none => silent
  | some condition =>
    match condition.child? .right with
    | none => silent
    | some bound =>
      let name := bound.callName
      let receiver := (bound.child? .object).bind Site.identifier?
      if condition.kind != .binaryExpression || bound.kind != .methodInvocation
          || !(["size", "length"].contains name) || (nonempty? receiver).isSome then silent
      else
        report .inefficientLoop s!"Method call '{name}()' in loop condition may be inefficient"
          site condition.render .medium

def hasBreak (body : Site) : Bool :=
  body.scope.any (·.kind == .breakStatement)

def infiniteLoop (site : Site) (_ : MethodContext) : Report :=
  let condition := (site.child? .condition).bind Site.unwrap?
  if !condition.any (·.kind == .trueLiteral) || site.body?.any hasBreak then silent
  else
    report .infiniteLoop "Potential infinite loop detected - no break statement found" site
      site.render .high

def redundantCondition (site : Site) (_ : MethodContext) : Report :=
  let condition := site.child? .condition
  if !condition.any Site.isBooleanLiteral then silent
  else
    report .redundantCondition "If statement with constant boolean condition" site
      (renderOf (condition.bind Site.unwrap?)) .low

def emptyMethod (method : Site) (_ : MethodContext) : Report :=
  match method.body? with
  | none => silent
  | some body =>
    if !body.parts.isEmpty || method.modifiers.contains "abstract" then silent
    else report .emptyMethod "Method has empty body" method method.renderHeader .low

def tooManyParameters (limits : Limits) (method : Site) (_ : MethodContext) : Report :=
  let count := method.parameters.length
  if (count : Int) ≤ limits.parameters then silent
  else
    report .tooManyParameters s!"Method has too many parameters ({count})" method
      method.renderHeader .medium

def highCyclomaticComplexity (limits : Limits) (method : Site) (context : MethodContext) :
    Report :=
  let name := method.declaredName
  let complexity := context.complexity.cyclomatic
  if (complexity : Int) ≤ limits.complexity then silent
  else
    report .highCyclomaticComplexity
      s!"Method '{name}' has high cyclomatic complexity: {complexity}" method
      method.renderHeader (if limits.highComplexity < complexity then .high else .medium)

/-- Whatever is reported belongs to the category and stands at the line of the node. -/
def IsAbout (category : Category) (site : Site) (verdict : Report) : Prop :=
  ∀ list, verdict = .findings list →
    ∀ finding ∈ list, finding.category = category ∧ finding.line = site.line

@[simp] theorem isAbout_silent (category : Category) (site : Site) :
    IsAbout category site silent := by
  intro list same finding member
  cases same
  cases member

@[simp] theorem isAbout_report (category : Category) (description : String) (site : Site)
    (snippet : String) (severity : Severity) :
    IsAbout category site (report category description site snippet severity) := by
  intro list same finding member
  cases same
  rw [List.mem_singleton.mp member]
  exact ⟨rfl, rfl⟩

@[simp] theorem isAbout_malformedLiteral (category : Category) (site : Site) (line : Nat) :
    IsAbout category site (.malformedLiteral line) := by
  intro list same
  cases same

@[simp] theorem isAbout_failed (category : Category) (site : Site) (reason : String) :
    IsAbout category site (.failed reason) := by
  intro list same
  cases same

section
variable (site : Site) (context : MethodContext)

theorem unusedVariable_about : IsAbout .unusedVariable site (unusedVariable site context) := by
  simp only [unusedVariable]
  split <;> simp

theorem uninitializedVariable_about :
    IsAbout .uninitializedVariable site (uninitializedVariable site context) := by
  simp only [uninitializedVariable]
  split <;> simp

theorem stringConcatenationInLoop_about :
    IsAbout .stringConcatenationInLoop site (stringConcatenationInLoop site context) := by
  unfold stringConcatenationInLoop
  split
  · simp
  · split <;> simp

theorem loopInvariantCalculation_about :
    IsAbout .loopInvariantCalculation site (loopInvariantCalculation site context) := by
  simp only [loopInvariantCalculation]
  split <;> simp

theorem unnecessaryObjectCreation_about :
    IsAbout .unnecessaryObjectCreation site (unnecessaryObjectCreation site context) := by
  unfold unnecessaryObjectCreation
  split <;> simp

theorem wrapperObjectCreation_about :
    IsAbout .wrapperObjectCreation site (wrapperObjectCreation site context) := by
  simp only [wrapperObjectCreation]
  repeat' split
  all_goals simp

theorem division_about : IsAbout .divisionOptimization site (division site context) := by
  unfold division
  repeat' split
  all_goals simp

theorem inefficientLoop_about : IsAbout .inefficientLoop site (inefficientLoop site context) := by
  simp only [inefficientLoop]
  repeat' split
  all_goals simp

theorem infiniteLoop_about : IsAbout .infiniteLoop site (infiniteLoop site context) := by
  simp only [infiniteLoop]
  split <;> simp

theorem redundantCondition_about :
    IsAbout .redundantCondition site (redundantCondition site context) := by
  simp only [redundantCondition]
  split <;> simp

theorem emptyMethod_about : IsAbout .emptyMethod site (emptyMethod site context) := by
  unfold emptyMethod
  split
  · simp
  · split <;> simp

theorem tooManyParameters_about (limits : Limits) :
    IsAbout .tooManyParameters site (tooManyParameters limits site context) := by
  simp only [tooManyParameters]
  split <;> simp

theorem highCyclomaticComplexity_about (limits : Limits) :
    IsAbout .highCyclomaticComplexity site (highCyclomaticComplexity limits site context) := by
  simp only [highCyclomaticComplexity]
  split <;> simp

end

end Optimization

end JavaAudit
