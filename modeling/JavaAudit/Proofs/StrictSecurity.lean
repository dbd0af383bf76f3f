import Mathlib.Logic.Basic
import JavaAudit.Proofs.StrictReading

/-! The checks for vulnerable code as strict readings.

Each check is written with the accesses that it makes and the tests that stand before them, in the
order in which it makes them. It comes to an end with the verdict of the plain check; one access
has no test before it and asks for a method with a body. Checks that serve the initializers of
fields never consult their context. -/

set_option autoImplicit false

namespace JavaAudit.Strict

def flag (category : Security.Category) (description : String) (site : Site)
    (severity : Severity) : Strict (Answer Security.Category) := do
  return .report category description site (← render (some site)) severity

@[simp] theorem Answer.verdict_silent_security :
    (silent : Answer Security.Category).verdict = Security.silent := rfl

@[simp] theorem Answer.verdict_report_security (category : Security.Category)
    (description : String) (site : Site) (severity : Severity) :
    (report category description site site.render severity).verdict =
      Security.report category description site severity := rfl

@[simp] theorem flag_eq (category : Security.Category) (description : String) (site : Site)
    (severity : Severity) :
    flag category description site severity =
      pure (.report category description site site.render severity) := by
  rw [flag, render_eq, pure_bind]
  rfl

theorem filterMapM_pure {α β : Type} (read : α → Option β) (items : List α) :
    items.filterMapM (fun item => (pure (read item) : Strict (Option β))) =
      pure (items.filterMap read) := by
  induction items with
  | nil => rfl
  | cons item rest ih =>
    rw [List.filterMapM_cons, pure_bind, List.filterMap_cons, ih]
    cases read item <;> rfl

def credentialDeclarator? (declaration declarator : Site) :
    Strict (Option (Finding Security.Category)) := do
  let name ← textOf (declarator.child? .name)
  let value ← unwrapOf (declarator.child? .value)
  if ← either (!Vocabulary.isCredentialName name) (either value.isNone do
      return (← node value).kind != .stringLiteral) then
    return none
  if Vocabulary.isFromSecureSource (← render value) then return none
  let literal := String.ofList (← literalValue (← node value).text.toList)
  if literal.isEmpty || Vocabulary.isPlaceholderValue literal then return none
  return some (Security.finding .hardcodedCredentials
    s!"Hardcoded credential found in field: {name}" declaration (← render (some declarator))
    .critical)

def credentialField (declaration : Site) (_ : Context) : Strict (Answer Security.Category) := do
  return .findings (← (declaration.childrenIn .declarator).filterMapM
    (credentialDeclarator? declaration))

theorem credentialDeclarator?_eq (declaration declarator : Site) :
    credentialDeclarator? declaration declarator =
      pure (Security.credentialDeclarator? declaration declarator) := by
  simp only [credentialDeclarator?, Security.credentialDeclarator?, textOf_child?, unwrapOf_eq,
    render_eq, literalValue_eq, pure_bind]
  cases (declarator.child? .value).bind Site.unwrap? with
  | none => simp
  | some value =>
    simp only [Option.isNone_some, node_some, pure_bind, either_pure, ite_pure, Bool.or_eq_true,
      ite_or]
    rfl

theorem credentialField_gives {γ : Type} (declaration : Site) (context : Context) (plain : γ) :
    Gives (credentialField declaration context) (Security.credentialField declaration plain) := by
  have each : credentialDeclarator? declaration =
      fun declarator => pure (Security.credentialDeclarator? declaration declarator) := by
    funext declarator
    exact credentialDeclarator?_eq declaration declarator
  rw [credentialField, each, filterMapM_pure, pure_bind, gives_pure]
  rfl

def isInTestMethod (site : Site) : Strict Bool :=
  both site.enclosingMethod?.isSome do
    return Vocabulary.isTestMethodName (← textOf ((← node site.enclosingMethod?).child? .name))

def credentialLiteral (site : Site) (_ : Context) : Strict (Answer Security.Category) := do
  if !(← looksLikeCredential (← literalValue site.text.toList)) then return .silent
  if ← isInTestMethod site then return .silent
  let statement := site.enclosingStatement?
  if ← both statement.isSome (do return Vocabulary.isConfigContext (← render statement)) then
    return .silent
  flag .hardcodedCredentials "Potential hardcoded credential in string literal" site .high

@[simp] theorem isInTestMethod_eq (site : Site) :
    isInTestMethod site = pure (Security.isInTestMethod site) := by
  unfold isInTestMethod Security.isInTestMethod
  cases site.enclosingMethod? with
  | none => rfl
  | some method =>
    simp only [Option.isSome_some, both_true, node_some, textOf_child?, pure_bind]
    rfl

theorem credentialLiteral_gives {γ : Type} (site : Site) (context : Context) (plain : γ) :
    Gives (credentialLiteral site context) (Security.credentialLiteral site plain) := by
  simp only [credentialLiteral, literalValue_eq, looksLikeCredential_eq, isInTestMethod_eq,
    render_eq, flag_eq, pure_bind, both_pure, ite_pure, gives_pure]
  simp only [Security.credentialLiteral, Bool.or_eq_true, ite_or, Answer.verdict_ite]
  cases site.enclosingStatement? <;> rfl

def commandInjection (site : Site) (context : Context) : Strict (Answer Security.Category) := do
  let receiver := site.child? .object
  if (← textOf (site.child? .name)) != "exec" || receiver.isNone then return .silent
  let name ← identifierOf receiver
  let isRuntime ← either (Vocabulary.mentions ["runtime"] (← render receiver))
    (both name.isSome do
      let scope := (← context.ofMethod).scope
      return name.any fun name => scope.typeOf? name == some "Runtime")
  if ← either (!isRuntime) (do
      return Vocabulary.isTestMethodName (← context.ofMethod).name) then
    return .silent
  flag .commandInjection "Potentially dangerous Runtime.exec() call" site .high

theorem commandInjection_gives (site : Site) (context : MethodContext) :
    Gives (commandInjection site (.method context)) (Security.commandInjection site context) := by
  simp only [commandInjection, Security.commandInjection, textOf_child?, identifierOf_eq,
    render_eq, Context.ofMethod_method, flag_eq, pure_bind, both_pure, either_pure, ite_pure,
    gives_pure]
  cases site.child? .object with
  | none => simp
  | some receiver =>
    simp only [Option.isNone_some, Bool.or_false, Option.bind_some, Bool.or_eq_true, ite_or,
      Answer.verdict_ite]
    cases receiver.identifier? <;> rfl

def dangerousMethodCall (site : Site) (context : Context) : Strict (Answer Security.Category) := do
  if (← textOf (site.child? .name)) != "getRuntime" then return .silent
  if (← identifierOf (site.child? .object)) != some "Runtime" then return .silent
  if Vocabulary.isTestMethodName (← context.ofMethod).name then return .silent
  flag .dangerousMethodCall "Use of Runtime.getRuntime() detected" site .medium

theorem dangerousMethodCall_gives (site : Site) (context : MethodContext) :
    Gives (dangerousMethodCall site (.method context))
      (Security.dangerousMethodCall site context) := by
  simp only [dangerousMethodCall, textOf_child?, identifierOf_eq, Context.ofMethod_method, flag_eq,
    pure_bind, ite_pure, gives_pure]
  simp only [Security.dangerousMethodCall, Bool.or_eq_true, ite_or, Answer.verdict_ite]
  rfl

def isPreparedReceiver (call : Site) (context : Context) : Strict Bool := do
  let receiver := call.child? .object
  if receiver.isNone then return false
  let name := nonempty? (← identifierOf receiver)
  if ← both name.isSome (do
      let scope := (← context.ofMethod).scope
      return name.any fun name =>
        (scope.typeOf? name).any ["PreparedStatement", "CallableStatement"].contains) then
    return true
  return Vocabulary.mentions ["prepare", "callable"] (← render receiver)

def isClosedQuery (site : Site) (context : Context) : Strict Bool := do
  either (!Security.isQueryCall (← textOf (site.child? .name))) (isPreparedReceiver site context)

def concatenatesVariable (site : Site) : Strict Bool := do
  let operands ← operands (some site)
  return 1 < operands.length && operands.any (Security.carriesValue ·.kind)

def sqlInjection (site : Site) (context : Context) : Strict (Answer Security.Category) := do
  if ← isClosedQuery site context then return .silent
  if !(← (← partsOf (site.child? .arguments)).anyM concatenatesVariable) then
    return .silent
  flag .sqlInjection "SQL injection vulnerability - string concatenation in query" site .critical

theorem isPreparedReceiver_eq (call : Site) (context : MethodContext) :
    isPreparedReceiver call (.method context) =
      pure (Security.isPreparedReceiver call context.scope) := by
  unfold isPreparedReceiver Security.isPreparedReceiver
  cases call.child? .object with
  | none => rfl
  | some receiver =>
    simp only [Option.isNone_some, identifierOf_eq, Option.bind_some, Context.ofMethod_method,
      render_eq, Option.any_some, pure_bind, both_pure, ite_pure]
    cases nonempty? receiver.identifier? <;> simp [renderOf]

@[simp] theorem isClosedQuery_eq (site : Site) (context : MethodContext) :
    isClosedQuery site (.method context) = pure (!Security.isOpenQuery site context) := by
  rw [isClosedQuery, textOf_child?, pure_bind, isPreparedReceiver_eq, either_pure,
    Security.isOpenQuery, Bool.not_and, Bool.not_not]
  rfl

theorem concatenatesVariable_eq :
    concatenatesVariable = fun site => pure (Security.concatenatesVariable site) := by
  funext site
  rw [concatenatesVariable, operands_eq, pure_bind]
  rfl

theorem sqlInjection_gives (site : Site) (context : MethodContext) :
    Gives (sqlInjection site (.method context)) (Security.sqlInjection site context) := by
  simp only [sqlInjection, isClosedQuery_eq, partsOf_eq, concatenatesVariable_eq, List.anyM_pure,
    flag_eq, pure_bind, ite_pure, gives_pure]
  simp only [Security.sqlInjection, Bool.or_eq_true, ite_or, Answer.verdict_ite]
  rfl

def isConcatenation (site : Option Site) : Strict Bool := do
  return 1 < (← operands site).length

def concatenatesInto (name : String) (site : Site) : Strict Bool := do
  match site.kind with
  | .variableDeclarator =>
    both ((← textOf (site.child? .name)) == name) (isConcatenation (site.child? .value))
  | .assignmentExpression =>
    if (← identifierOf (site.child? .left)) != some name then return false
    either ((← textOf (site.child? .operator)) == "+=") (isConcatenation (site.child? .right))
  | _ => return false

def concatenatesAmong (name : String) (before : Nat) : List Site → Strict Bool
  | [] => pure false
  | site :: rest => do
    if before ≤ site.node.start then return false
    if ← concatenatesInto name site then return true
    concatenatesAmong name before rest

/-- The body is walked without a test. -/
def isBuiltByConcatenation (name : String) (body : Option Site) (before : Nat) :
    Strict Bool := do
  concatenatesAmong name before (← node body).scope

def isConcatenatedQuery (body : Option Site) (call argument : Site) : Strict Bool := do
  match nonempty? (← identifierOf (some argument)) with
  | none => return false
  | some name =>
    both (Vocabulary.isSqlVariableName name) (isBuiltByConcatenation name body call.node.start)

def dynamicSqlConstruction (site : Site) (context : Context) :
    Strict (Answer Security.Category) := do
  if ← isClosedQuery site context then return .silent
  let arguments ← partsOf (site.child? .arguments)
  if ← arguments.anyM concatenatesVariable then return .silent
  let body := (← context.ofMethod).method.body?
  if !(← arguments.anyM (isConcatenatedQuery body site)) then return .silent
  flag .dynamicSqlConstruction "Dynamic SQL query construction detected" site .critical

@[simp] theorem isConcatenation_eq (site : Option Site) :
    isConcatenation site = pure (site.any Security.isConcatenation) := by
  rw [isConcatenation, operands_eq, pure_bind]
  cases site <;> rfl

theorem concatenatesInto_eq (name : String) (site : Site) :
    concatenatesInto name site = pure (Security.concatenatesInto name site) := by
  unfold concatenatesInto Security.concatenatesInto
  simp only [textOf_child?, identifierOf_eq, isConcatenation_eq, pure_bind, both_pure, either_pure,
    ite_pure, bne, Bool.if_false_left, Bool.decide_eq_true, Bool.not_not]
  generalize site.kind = kind
  cases kind <;> rfl

theorem concatenatesAmong_eq (name : String) (before : Nat) (sites : List Site) :
    concatenatesAmong name before sites =
      pure ((sites.takeWhile (·.node.start < before)).any (Security.concatenatesInto name)) := by
  induction sites with
  | nil => rfl
  | cons site rest ih =>
    rw [concatenatesAmong, concatenatesInto_eq, ih, pure_bind, List.takeWhile_cons]
    by_cases reached : before ≤ site.node.start
    · have late : ¬site.node.start < before := by omega
      simp [reached, late]
    · have early : site.node.start < before := by omega
      simp [reached, early]

theorem isConcatenatedQuery_eq {context : MethodContext} {body : Site}
    (hasBody : context.method.body? = some body) (call argument : Site) :
    isConcatenatedQuery (some body) call argument =
      pure (Security.isConcatenatedQuery context call argument) := by
  rw [isConcatenatedQuery, Security.isConcatenatedQuery, hasBody, identifierOf_eq, pure_bind,
    Option.bind_some]
  cases nonempty? argument.identifier? with
  | none => rfl
  | some name =>
    simp only [isBuiltByConcatenation, node_some, pure_bind, concatenatesAmong_eq, both_pure]
    rfl

theorem dynamicSqlConstruction_gives {context : MethodContext} {body : Site}
    (hasBody : context.method.body? = some body) (site : Site) :
    Gives (dynamicSqlConstruction site (.method context))
      (Security.dynamicSqlConstruction site context) := by
  have each : isConcatenatedQuery (some body) site =
      fun argument => pure (Security.isConcatenatedQuery context site argument) := by
    funext argument
    exact isConcatenatedQuery_eq hasBody site argument
  simp only [dynamicSqlConstruction, isClosedQuery_eq, partsOf_eq, concatenatesVariable_eq,
    Context.ofMethod_method, hasBody, each, List.anyM_pure, flag_eq, pure_bind, ite_pure,
    gives_pure]
  simp only [Security.dynamicSqlConstruction, Bool.or_eq_true, ite_or, Answer.verdict_ite]
  rfl

def concatenatesText (site : Site) : Strict Bool := do
  let operands ← operands (some site)
  return 1 < operands.length && operands.any fun operand =>
    operand.kind == .stringLiteral || operand.kind == .identifier

def isForeignPath (context : Context) (argument : Site) : Strict Bool := do
  let name ← identifierOf (some argument)
  let isInput ← both (name.any Vocabulary.isUserInputName) do
    return name.any (← context.ofMethod).scope.parameterNames.contains
  either isInput (concatenatesText argument)

def pathTraversal (site : Site) (context : Context) : Strict (Answer Security.Category) := do
  if !Security.isFileType (← createdTypeName site) then return .silent
  if !(← (← partsOf (site.child? .arguments)).anyM (isForeignPath context)) then
    return .silent
  flag .pathTraversal "Potential path traversal vulnerability - user input in file path" site .high

theorem isForeignPath_eq (context : MethodContext) :
    isForeignPath (.method context) =
      fun argument => pure (Security.isForeignPath context.scope argument) := by
  funext argument
  simp only [isForeignPath, concatenatesText, identifierOf_eq, Option.bind_some,
    Context.ofMethod_method, operands_eq, pure_bind, both_pure, either_pure]
  unfold Security.isForeignPath
  cases argument.identifier? <;> rfl

theorem pathTraversal_gives (site : Site) (context : MethodContext) :
    Gives (pathTraversal site (.method context)) (Security.pathTraversal site context) := by
  simp only [pathTraversal, createdTypeName_eq, partsOf_eq, isForeignPath_eq, List.anyM_pure,
    flag_eq, pure_bind, ite_pure, gives_pure]
  simp only [Security.pathTraversal, Bool.or_eq_true, ite_or, Answer.verdict_ite]
  rfl

def weakRandom (site : Site) (_ : Context) : Strict (Answer Security.Category) := do
  if (← createdTypeName site) != "Random" then return .silent
  let owner := site.enclosing? (fun kind => kind.isMethod || kind.isField) fun _ => false
  if ← either owner.isNone (do return !Vocabulary.isSecurityContext (← render owner)) then
    return .silent
  flag .weakRandom "Using weak random number generator in security context" site .medium

theorem weakRandom_gives {γ : Type} (site : Site) (context : Context) (plain : γ) :
    Gives (weakRandom site context) (Security.weakRandom site plain) := by
  simp only [weakRandom, createdTypeName_eq, render_eq, flag_eq, pure_bind, either_pure, ite_pure,
    gives_pure]
  simp only [Security.weakRandom, Bool.or_eq_true, ite_or, Answer.verdict_ite]
  generalize site.enclosing? _ _ = owner
  cases owner <;> simp [renderOf]

def sensitiveDeclarator? (declaration declarator : Site) :
    Strict (Option (Finding Security.Category)) := do
  if !Vocabulary.isSensitiveLocalName (← textOf (declarator.child? .name)) then return none
  if Vocabulary.isFromSecureSource (← render (declarator.child? .value)) then return none
  return some (Security.finding .sensitiveDataExposure
    "Sensitive data stored in String (immutable and may appear in memory dumps)"
    declaration (← render (some declarator)) .medium)

def sensitiveDataExposure (site : Site) (_ : Context) : Strict (Answer Security.Category) := do
  if (← textOf (site.child? .type)) != "String" then return .silent
  if site.modifiers.contains "static" && site.modifiers.contains "final" then
    return .silent
  return .findings (← (site.childrenIn .declarator).filterMapM (sensitiveDeclarator? site))

theorem sensitiveDeclarator?_eq (declaration : Site) :
    sensitiveDeclarator? declaration =
      fun declarator => pure (Security.sensitiveDeclarator? declaration declarator) := by
  funext declarator
  simp only [sensitiveDeclarator?, textOf_child?, render_eq, pure_bind, ite_pure]
  simp only [Security.sensitiveDeclarator?, Bool.or_eq_true, ite_or]
  rfl

theorem sensitiveDataExposure_gives (site : Site) (context : Context) (plain : MethodContext) :
    Gives (sensitiveDataExposure site context) (Security.sensitiveDataExposure site plain) := by
  simp only [sensitiveDataExposure, textOf_child?, sensitiveDeclarator?_eq, filterMapM_pure,
    pure_bind, ite_pure, gives_pure]
  simp only [Security.sensitiveDataExposure, Bool.or_eq_true, ite_or, Answer.verdict_ite]
  rfl

def guardText (site : Site) : Strict String := do
  let around := site.ancestorsUpTo Kind.isMethod
  let conditions ← (around.filter (·.kind == .ifStatement)).mapM fun statement =>
    render (statement.child? .condition)
  return " ".intercalate (conditions ++ [← render (around.find? (·.kind == .block))])

def arrayBoundsCheck (site : Site) (context : Context) : Strict (Answer Security.Category) := do
  match nonempty? (← identifierOf (site.child? .index)) with
  | none => return .silent
  | some index =>
    if !((← context.ofMethod).scope.parameterNames.contains index ||
        Vocabulary.isIndexLikeName index) then
      return .silent
    if hasBoundsCheck (← guardText site) index (← render (site.child? .array)) then
      return .silent
    flag .arrayBoundsCheck
      "Array access without bounds checking - potential ArrayIndexOutOfBoundsException" site .medium

@[simp] theorem guardText_eq (site : Site) : guardText site = pure (Security.guardText site) := by
  simp only [guardText, render_eq, List.mapM_pure, pure_bind]
  rfl

theorem arrayBoundsCheck_gives (site : Site) (context : MethodContext) :
    Gives (arrayBoundsCheck site (.method context)) (Security.arrayBoundsCheck site context) := by
  simp only [arrayBoundsCheck, Security.arrayBoundsCheck, identifierOf_eq, Context.ofMethod_method,
    guardText_eq, render_eq, flag_eq, pure_bind, ite_pure]
  cases nonempty? ((site.child? .index).bind Site.identifier?) with
  | none => exact ⟨.silent, rfl, rfl⟩
  | some index =>
    simp only [gives_pure, Answer.verdict_ite, Bool.or_eq_true (!_), ite_or]
    rfl

def unsafeCasting (site : Site) (context : Context) : Strict (Answer Security.Category) := do
  let target ← textOf (site.child? .type)
  if Vocabulary.isPrimitiveType target then return .silent
  let value := (← render (site.child? .value)).toList
  if target == "String" && Text.containsAny ["toString()", "String.valueOf"] value then
    return .silent
  if Text.contains (← render (some (← context.ofMethod).method)) "instanceof" then
    return .silent
  flag .unsafeCasting "Unsafe type casting without instanceof check" site .low

theorem unsafeCasting_gives (site : Site) (context : MethodContext) :
    Gives (unsafeCasting site (.method context)) (Security.unsafeCasting site context) := by
  simp only [unsafeCasting, textOf_child?, render_eq, Context.ofMethod_method, flag_eq, pure_bind,
    ite_pure, gives_pure]
  simp only [Security.unsafeCasting, Bool.or_eq_true, ite_or, Answer.verdict_ite]
  rfl

def emptyCatchBlock (site : Site) (_ : Context) : Strict (Answer Security.Category) := do
  if !(← partsOf site.body?).isEmpty then return .silent
  flag .emptyCatchBlock "Empty catch block may hide security issues" site .low

theorem emptyCatchBlock_gives (site : Site) (context : Context) (plain : MethodContext) :
    Gives (emptyCatchBlock site context) (Security.emptyCatchBlock site plain) := by
  simp only [emptyCatchBlock, partsOf_eq, flag_eq, pure_bind, ite_pure, gives_pure,
    Answer.verdict_ite]
  rfl

def firstNamed (site : Site) : Strict (Option Site) := do
  if site.namedChildren.isEmpty then return none
  return some (← item site.namedChildren 0)

/-- The only statement is read after the statements are counted. -/
def poorExceptionHandling (site : Site) (_ : Context) : Strict (Answer Security.Category) := do
  let statements ← partsOf site.body?
  if ← either (statements.length != 1) (do
      return (← item statements 0).kind != .expressionStatement) then
    return .silent
  let expression ← firstNamed (← item statements 0)
  if ← either expression.isNone (do return (← node expression).kind != .methodInvocation) then
    return .silent
  if (← textOf ((← node expression).child? .name)) != "printStackTrace" then
    return .silent
  flag .poorExceptionHandling
    "Exception handling only prints stack trace - consider proper logging" site .low

@[simp] theorem firstNamed_eq (site : Site) : firstNamed site = pure site.namedChildren.head? := by
  unfold firstNamed
  cases site.namedChildren <;> rfl

theorem poorExceptionHandling_gives (site : Site) (context : Context) (plain : MethodContext) :
    Gives (poorExceptionHandling site context) (Security.poorExceptionHandling site plain) := by
  simp only [poorExceptionHandling, Security.poorExceptionHandling, Security.handlerStatements,
    partsOf_eq, firstNamed_eq, flag_eq, pure_bind]
  rcases (site.body?.map Site.parts).getD [] with _ | ⟨statement, _ | ⟨second, rest⟩⟩
  · exact ⟨.silent, rfl, rfl⟩
  · cases found : statement.namedChildren.head? with
    | none => simp [Security.printsStackTrace, found]
    | some expression =>
      simp only [item_cons_zero, found, Option.isNone_some, node_some, textOf_child?, pure_bind,
        either_pure, ite_pure, Security.printsStackTrace, Option.any_some, Bool.not_and,
        Bool.or_eq_true, ite_or, gives_pure, Answer.verdict_ite]
      rfl
  · exact ⟨.silent, rfl, rfl⟩

def nullPointerDereference (site : Site) (context : Context) :
    Strict (Answer Security.Category) := do
  match nonempty? (← identifierOf (site.child? .object)) with
  | none => return .silent
  | some name =>
    let context ← context.ofDereference
    let scope := context.method.scope
    if context.flaggedLines.contains (site.line : Int) then return .silent
    if Vocabulary.isSecurityCriticalMethodName context.method.name then return .silent
    if ← either (name == "this" || name == "super") (isConstantOrTypeName name) then
      return .silent
    if scope.exceptions.contains name || scope.loopVariables.contains name then
      return .silent
    if scope.fieldNames.contains name && !scope.parameterNames.contains name then
      return .silent
    if scope.nullChecked.contains name then return .silent
    if !scope.parameterNames.contains name && !context.lookupNames.contains name then
      return .silent
    flag .nullPointerDereference s!"Potential null pointer dereference on variable: {name}" site
      .medium

theorem nullPointerDereference_gives (site : Site) (context : Security.DereferenceContext) :
    Gives (nullPointerDereference site (.dereference context))
      (Security.nullPointerDereference site context) := by
  simp only [nullPointerDereference, Security.nullPointerDereference, identifierOf_eq,
    Context.ofDereference_dereference, isConstantOrTypeName_eq, flag_eq, pure_bind, either_pure,
    ite_pure]
  cases nonempty? ((site.child? .object).bind Site.identifier?) with
  | none => exact ⟨.silent, rfl, rfl⟩
  | some name =>
    simp only [Security.mayBeNull, Bool.not_and, Bool.not_not, Bool.not_or, Bool.or_eq_true, ite_or,
      gives_pure, Answer.verdict_ite]
    rfl

end JavaAudit.Strict
