import JavaAudit.Finding
import JavaAudit.Rule
import JavaAudit.Security.Flow

/-! Checks for vulnerable code.

Checks that also serve field initializers take a context of any type and do not consult it. -/

set_option autoImplicit false

namespace JavaAudit

open Text in
/-- Does the code compare the index with zero or with the length of the array, or call a checking
method? The index counts as a whole identifier only. -/
def hasBoundsCheck (code index array : String) : Bool :=
  let code := code.toList
  let index := index.toList
  let length := array.toList ++ ".length".toList
  occursWhole [] index " >= 0".toList code ||
    occursWhole [] index (" < ".toList ++ length) code ||
    occursWhole (length ++ " > ".toList) index [] code ||
    occursIn "checkBounds".toList code ||
    occursIn "isValidIndex".toList code

namespace Security

inductive Category where
  | hardcodedCredentials
  | commandInjection
  | dangerousMethodCall
  | sqlInjection
  | dynamicSqlConstruction
  | pathTraversal
  | weakRandom
  | sensitiveDataExposure
  | arrayBoundsCheck
  | unsafeCasting
  | emptyCatchBlock
  | poorExceptionHandling
  | nullPointerDereference
  deriving DecidableEq, Repr

def Category.name : Category → String
  | .hardcodedCredentials => "HARDCODED_CREDENTIALS"
  | .commandInjection => "COMMAND_INJECTION"
  | .dangerousMethodCall => "DANGEROUS_METHOD_CALL"
  | .sqlInjection => "SQL_INJECTION"
  | .dynamicSqlConstruction => "DYNAMIC_SQL_CONSTRUCTION"
  | .pathTraversal => "PATH_TRAVERSAL"
  | .weakRandom => "WEAK_RANDOM"
  | .sensitiveDataExposure => "SENSITIVE_DATA_EXPOSURE"
  | .arrayBoundsCheck => "ARRAY_BOUNDS_CHECK"
  | .unsafeCasting => "UNSAFE_CASTING"
  | .emptyCatchBlock => "EMPTY_CATCH_BLOCK"
  | .poorExceptionHandling => "POOR_EXCEPTION_HANDLING"
  | .nullPointerDereference => "NULL_POINTER_DEREFERENCE"

abbrev Report := Verdict (Finding Category)

def finding (category : Category) (description : String) (site : Site) (snippet : String)
    (severity : Severity) : Finding Category :=
  ⟨category, description, site.line, snippet, severity⟩

def silent : Report :=
  .findings []

def report (category : Category) (description : String) (site : Site) (severity : Severity) :
    Report :=
  .findings [finding category description site site.render severity]

variable {γ : Type}

def credentialDeclarator? (declaration declarator : Site) : Option (Finding Category) :=
  let name := declarator.declaredName
  match (declarator.child? .value).bind Site.unwrap? with
  | none => none
  | some value =>
    let literal := String.ofList value.literalValue
    if !Vocabulary.isCredentialName name || value.kind != .stringLiteral
        || Vocabulary.isFromSecureSource value.render || literal.isEmpty
        || Vocabulary.isPlaceholderValue literal then none
    else
      some (finding .hardcodedCredentials s!"Hardcoded credential found in field: {name}"
        declaration declarator.render .critical)

def credentialField (declaration : Site) (_ : γ) : Report :=
  .findings ((declaration.childrenIn .declarator).filterMap (credentialDeclarator? declaration))

/-- A literal that resembles a secret, outside tests and statements that read a configuration. -/
def credentialLiteral (site : Site) (_ : γ) : Report :=
  if !Vocabulary.looksLikeCredential site.literalValue || isInTestMethod site
      || site.enclosingStatement?.any (Vocabulary.isConfigContext ·.render) then silent
  else
    report .hardcodedCredentials "Potential hardcoded credential in string literal" site .high

def commandInjection (site : Site) (context : MethodContext) : Report :=
  match site.child? .object with
  | none => silent
  | some receiver =>
    let isRuntime := Vocabulary.mentions ["runtime"] receiver.render ||
      receiver.identifier?.any fun name => context.scope.typeOf? name == some "Runtime"
    if site.callName != "exec" || !isRuntime || Vocabulary.isTestMethodName context.name then
      silent
    else report .commandInjection "Potentially dangerous Runtime.exec() call" site .high

def dangerousMethodCall (site : Site) (context : MethodContext) : Report :=
  if site.callName != "getRuntime"
      || (site.child? .object).bind Site.identifier? != some "Runtime"
      || Vocabulary.isTestMethodName context.name then silent
  else report .dangerousMethodCall "Use of Runtime.getRuntime() detected" site .medium

def isOpenQuery (site : Site) (context : MethodContext) : Bool :=
  isQueryCall site.callName && !isPreparedReceiver site context.scope

def sqlInjection (site : Site) (context : MethodContext) : Report :=
  if !isOpenQuery site context || !site.arguments.any concatenatesVariable then silent
  else
    report .sqlInjection "SQL injection vulnerability - string concatenation in query" site
      .critical

/-- Is the argument a query variable that was concatenated before the call? -/
def isConcatenatedQuery (context : MethodContext) (call argument : Site) : Bool :=
  (nonempty? argument.identifier?).any fun name =>
    Vocabulary.isSqlVariableName name &&
      context.method.body?.any (isBuiltByConcatenation name · call.node.start)

/-- A query built in a variable; concatenation right in the call is an injection instead. -/
def dynamicSqlConstruction (site : Site) (context : MethodContext) : Report :=
  if !isOpenQuery site context || site.arguments.any concatenatesVariable
      || !site.arguments.any (isConcatenatedQuery context site) then silent
  else report .dynamicSqlConstruction "Dynamic SQL query construction detected" site .critical

def isFileType (type : String) : Bool :=
  ["File", "FileInputStream", "FileOutputStream", "FileReader", "FileWriter",
    "RandomAccessFile"].contains type

/-- Is the argument a parameter named like user input, or a concatenation? -/
def isForeignPath (scope : Scope) (argument : Site) : Bool :=
  (argument.identifier?.any fun name =>
    Vocabulary.isUserInputName name && scope.parameterNames.contains name) ||
    concatenatesText argument

def pathTraversal (site : Site) (context : MethodContext) : Report :=
  if !isFileType site.createdTypeName
      || !site.arguments.any (isForeignPath context.scope) then silent
  else
    report .pathTraversal "Potential path traversal vulnerability - user input in file path" site
      .high

/-- A predictable generator in a method or field that deals with secrets. -/
def weakRandom (site : Site) (_ : γ) : Report :=
  let owner := site.enclosing? (fun kind => kind.isMethod || kind.isField) fun _ => false
  if site.createdTypeName != "Random"
      || !owner.any (Vocabulary.isSecurityContext ·.render) then silent
  else report .weakRandom "Using weak random number generator in security context" site .medium

def sensitiveDeclarator? (declaration declarator : Site) : Option (Finding Category) :=
  if !Vocabulary.isSensitiveLocalName declarator.declaredName
      || Vocabulary.isFromSecureSource (renderOf (declarator.child? .value)) then none
  else
    some (finding .sensitiveDataExposure
      "Sensitive data stored in String (immutable and may appear in memory dumps)"
      declaration declarator.render .medium)

def sensitiveDataExposure (site : Site) (_ : MethodContext) : Report :=
  if site.childText .type != "String"
      || (site.modifiers.contains "static" && site.modifiers.contains "final") then silent
  else .findings ((site.childrenIn .declarator).filterMap (sensitiveDeclarator? site))

/-- The code in which a check of an index is looked for: the conditions of the enclosing if
statements, inside out, and the nearest block. -/
def guardText (site : Site) : String :=
  let around := site.ancestorsUpTo Kind.isMethod
  let conditions := (around.filter (·.kind == .ifStatement)).map fun statement =>
    renderOf (statement.child? .condition)
  let block := around.find? fun ancestor => ancestor.kind == .block
  " ".intercalate (conditions ++ [renderOf block])

def arrayBoundsCheck (site : Site) (context : MethodContext) : Report :=
  match nonempty? ((site.child? .index).bind Site.identifier?) with
  | none => silent
  | some index =>
    if !(context.scope.parameterNames.contains index || Vocabulary.isIndexLikeName index)
        || hasBoundsCheck (guardText site) index (renderOf (site.child? .array)) then silent
    else
      report .arrayBoundsCheck
        "Array access without bounds checking - potential ArrayIndexOutOfBoundsException" site
        .medium

/-- A cast to a reference type in a method that never tests a type. -/
def unsafeCasting (site : Site) (context : MethodContext) : Report :=
  let target := site.childText .type
  let value := (renderOf (site.child? .value)).toList
  if Vocabulary.isPrimitiveType target
      || (target == "String" && Text.containsAny ["toString()", "String.valueOf"] value)
      || Text.contains context.method.render "instanceof" then silent
  else report .unsafeCasting "Unsafe type casting without instanceof check" site .low

def handlerStatements (site : Site) : List Site :=
  (site.body?.map Site.parts).getD []

def emptyCatchBlock (site : Site) (_ : MethodContext) : Report :=
  if !(handlerStatements site).isEmpty then silent
  else report .emptyCatchBlock "Empty catch block may hide security issues" site .low

def printsStackTrace (statement : Site) : Bool :=
  statement.kind == .expressionStatement &&
    statement.namedChildren.head?.any fun expression =>
      expression.kind == .methodInvocation && expression.callName == "printStackTrace"

def poorExceptionHandling (site : Site) (_ : MethodContext) : Report :=
  match handlerStatements site with
  | [statement] =>
    if !printsStackTrace statement then silent
    else
      report .poorExceptionHandling
        "Exception handling only prints stack trace - consider proper logging" site .low
  | _ => silent

structure DereferenceContext where
  method : MethodContext
  /-- Lines that already carry a finding or a query call. -/
  flaggedLines : List Int
  /-- Names that may hold the result of a lookup. -/
  lookupNames : List String
  deriving Repr

/-- May the receiver be `null`? Only parameters and results of lookups may, unless the method
checks them. -/
def mayBeNull (context : DereferenceContext) (name : String) : Bool :=
  let scope := context.method.scope
  !(name == "this" || name == "super" || Vocabulary.isConstantOrTypeName name) &&
    !(scope.exceptions.contains name || scope.loopVariables.contains name) &&
    !(scope.fieldNames.contains name && !scope.parameterNames.contains name) &&
    !scope.nullChecked.contains name &&
    (scope.parameterNames.contains name || context.lookupNames.contains name)

def nullPointerDereference (site : Site) (context : DereferenceContext) : Report :=
  match nonempty? ((site.child? .object).bind Site.identifier?) with
  | none => silent
  | some name =>
    if context.flaggedLines.contains (site.line : Int)
        || Vocabulary.isSecurityCriticalMethodName context.method.name
        || !mayBeNull context name then silent
    else
      report .nullPointerDereference
        s!"Potential null pointer dereference on variable: {name}" site .medium

/-- Whatever is reported belongs to the category and stands at the line of the node. -/
def IsAbout (category : Category) (site : Site) (verdict : Report) : Prop :=
  ∀ list, verdict = .findings list →
    ∀ finding ∈ list, finding.category = category ∧ finding.line = site.line

@[simp] theorem isAbout_silent (category : Category) (site : Site) :
    IsAbout category site silent := by
  intro list same finding member
  cases same
  cases member

@[simp] theorem isAbout_report (category : Category) (description : String) (site : Site)
    (severity : Severity) :
    IsAbout category site (report category description site severity) := by
  intro list same found member
  cases same
  rw [List.mem_singleton.mp member]
  exact ⟨rfl, rfl⟩

theorem isAbout_filterMap {category : Category} {site : Site} {parts : List Site}
    {report? : Site → Option (Finding Category)}
    (about : ∀ part found, report? part = some found →
      found.category = category ∧ found.line = site.line) :
    IsAbout category site (.findings (parts.filterMap report?)) := by
  intro list same found member
  cases same
  obtain ⟨part, _, reported⟩ := List.mem_filterMap.mp member
  exact about part found reported

section
variable {γ : Type}

theorem credentialField_about (site : Site) (context : γ) :
    IsAbout .hardcodedCredentials site (credentialField site context) := by
  apply isAbout_filterMap
  intro declarator found reported
  unfold credentialDeclarator? at reported
  split at reported
  · cases reported
  · simp only [Option.ite_none_left_eq_some] at reported
    obtain ⟨_, same⟩ := reported
    cases same
    exact ⟨rfl, rfl⟩

theorem credentialLiteral_about (site : Site) (context : γ) :
    IsAbout .hardcodedCredentials site (credentialLiteral site context) := by
  unfold credentialLiteral
  split <;> simp

theorem weakRandom_about (site : Site) (context : γ) :
    IsAbout .weakRandom site (weakRandom site context) := by
  simp only [weakRandom]
  split <;> simp

end

section
variable (site : Site) (context : MethodContext)

theorem commandInjection_about :
    IsAbout .commandInjection site (commandInjection site context) := by
  unfold commandInjection
  split
  · simp
  · dsimp only
    split <;> simp

theorem dangerousMethodCall_about :
    IsAbout .dangerousMethodCall site (dangerousMethodCall site context) := by
  unfold dangerousMethodCall
  split <;> simp

theorem sqlInjection_about : IsAbout .sqlInjection site (sqlInjection site context) := by
  unfold sqlInjection
  split <;> simp

theorem dynamicSqlConstruction_about :
    IsAbout .dynamicSqlConstruction site (dynamicSqlConstruction site context) := by
  unfold dynamicSqlConstruction
  split <;> simp

theorem pathTraversal_about : IsAbout .pathTraversal site (pathTraversal site context) := by
  unfold pathTraversal
  split <;> simp

theorem sensitiveDataExposure_about :
    IsAbout .sensitiveDataExposure site (sensitiveDataExposure site context) := by
  unfold sensitiveDataExposure
  split
  · simp
  · apply isAbout_filterMap
    intro declarator found reported
    simp only [sensitiveDeclarator?, Option.ite_none_left_eq_some] at reported
    obtain ⟨_, same⟩ := reported
    cases same
    exact ⟨rfl, rfl⟩

theorem arrayBoundsCheck_about :
    IsAbout .arrayBoundsCheck site (arrayBoundsCheck site context) := by
  unfold arrayBoundsCheck
  split
  · simp
  · split <;> simp

theorem unsafeCasting_about : IsAbout .unsafeCasting site (unsafeCasting site context) := by
  simp only [unsafeCasting]
  split <;> simp

theorem emptyCatchBlock_about : IsAbout .emptyCatchBlock site (emptyCatchBlock site context) := by
  unfold emptyCatchBlock
  split <;> simp

theorem poorExceptionHandling_about :
    IsAbout .poorExceptionHandling site (poorExceptionHandling site context) := by
  unfold poorExceptionHandling
  split
  · split <;> simp
  · simp

end

theorem nullPointerDereference_about (site : Site) (context : DereferenceContext) :
    IsAbout .nullPointerDereference site (nullPointerDereference site context) := by
  unfold nullPointerDereference
  split
  · simp
  · split <;> simp

theorem nullPointerDereference_of_flagged {site : Site} {context : DereferenceContext}
    (flagged : (site.line : Int) ∈ context.flaggedLines) :
    nullPointerDereference site context = silent := by
  unfold nullPointerDereference
  split
  · rfl
  · simp [flagged]

end Security

end JavaAudit
