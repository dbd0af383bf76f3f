import JavaAudit.Proofs.CategoryFindings

/-! Locals that are reported as unused.

A local that drives a loop is exempt, and the search for that loop goes up from the declarator.
Without a while loop on the way it stops at the first for loop of either form, whether the local is
declared in the header or stands in the body. So no local inside a for loop is ever reported. -/

set_option autoImplicit false

namespace JavaAudit

namespace Ancestor

def isForLoop (ancestor : Ancestor) : Bool :=
  ancestor.node.kind == .forStatement || ancestor.node.kind == .enhancedForStatement

/-- Does the way down start in the first part of the header of a for statement? -/
def leadsThroughInit (ancestor : Ancestor) : Bool :=
  ancestor.node.kind == .forStatement &&
    (ancestor.node.children[ancestor.index]?).any (·.role == some (.other "init"))

end Ancestor

namespace Site

def ownPath (site : Site) : List Ancestor :=
  site.above.takeWhile (!Optimization.boundsMethod ·.node.kind)

def isInForLoop (site : Site) : Bool :=
  site.ownPath.any Ancestor.isForLoop

def isInForHeader (site : Site) : Bool :=
  site.ownPath.any Ancestor.leadsThroughInit

def OutsideWhile (site : Site) : Prop :=
  ∀ ancestor ∈ site.ownPath, ancestor.node.kind ≠ .whileStatement

instance : DecidablePred OutsideWhile :=
  fun site => inferInstanceAs (Decidable (∀ ancestor ∈ site.ownPath, _))

/-- One step up: the bounds of the method end the search, and the first loop that is met decides. -/
theorem controlsLoopAmong_cons (name : String) (site : Site) (rest : List Site) :
    controlsLoopAmong name (site :: rest) =
      if Optimization.boundsMethod site.kind then false
      else if site.kind == .forStatement || site.kind == .enhancedForStatement then true
      else if site.kind == .whileStatement then drivesLoop name site.render
      else controlsLoopAmong name rest := by
  rw [controlsLoopAmong]
  cases site.kind <;> rfl

theorem controlsLoopAmong_eq (name : String) {above : List Ancestor}
    (outside : ∀ ancestor ∈ above.takeWhile (!Optimization.boundsMethod ·.node.kind),
      ancestor.node.kind ≠ .whileStatement) :
    controlsLoopAmong name (ancestorsOf above) =
      (above.takeWhile (!Optimization.boundsMethod ·.node.kind)).any Ancestor.isForLoop := by
  induction above with
  | nil => rfl
  | cons ancestor rest ih =>
    rw [List.takeWhile_cons] at outside ⊢
    rw [ancestorsOf, controlsLoopAmong_cons, kind]
    cases bounds : Optimization.boundsMethod ancestor.node.kind with
    | true => rfl
    | false =>
      rw [bounds, Bool.not_false, if_pos rfl] at outside
      obtain ⟨here, further⟩ := List.forall_mem_cons.mp outside
      rw [beq_false_of_ne here, ih further, Bool.not_false, if_pos rfl, List.any_cons,
        Ancestor.isForLoop]
      cases ancestor.node.kind == .forStatement || ancestor.node.kind == .enhancedForStatement <;>
        rfl

/-- Without a while loop around it, a local is exempt exactly if it stands in a for loop. -/
theorem isLoopControl_eq_isInForLoop {declarator : Site} (outside : declarator.OutsideWhile) :
    declarator.isLoopControl = declarator.isInForLoop :=
  controlsLoopAmong_eq _ outside

theorem isInForLoop_of_isInForHeader {site : Site} (inHeader : site.isInForHeader = true) :
    site.isInForLoop = true := by
  obtain ⟨loop, onPath, leads⟩ := List.any_eq_true.mp inHeader
  refine List.any_eq_true.mpr ⟨loop, onPath, ?_⟩
  rw [Ancestor.isForLoop, (Bool.and_eq_true_iff.mp leads).1, Bool.true_or]

end Site

namespace Optimization

/-- A local that nothing uses and that is not exempt by its name. -/
def isIdleLocal (context : MethodContext) (declarator : Site) : Bool :=
  let name := declarator.declaredName
  let scope := context.scope
  isLocalDeclarator declarator && !scope.isExempt name && !scope.used.contains name &&
    !Usage.isUsedIn name scope.bodyText

def unusedFinding (declarator : Site) : Finding Category :=
  ⟨.unusedVariable, s!"Local variable '{declarator.declaredName}' is declared but never used",
    declarator.line, declarator.render, .low⟩

theorem unusedVariable_eq (declarator : Site) (context : MethodContext) :
    unusedVariable declarator context =
      .findings (if isIdleLocal context declarator && !declarator.isLoopControl then
        [unusedFinding declarator] else []) := by
  have quiet : (!isLocalDeclarator declarator || context.scope.isExempt declarator.declaredName ||
      declarator.isLoopControl || context.scope.used.contains declarator.declaredName ||
      Usage.isUsedIn declarator.declaredName context.scope.bodyText) =
        !(isIdleLocal context declarator && !declarator.isLoopControl) := by
    rw [isIdleLocal]
    cases declarator.isLoopControl <;> simp
  simp only [unusedVariable, quiet]
  cases isIdleLocal context declarator && !declarator.isLoopControl <;> rfl

theorem filter_unusedVariable (limits : Limits) (context : MethodContext) :
    (analyzeMethod limits context).findings.filter (·.category == .unusedVariable) =
      (context.method.ownScope.filter fun site => site.kind == .variableDeclarator &&
        (isIdleLocal context site && !site.isLoopControl)).map unusedFinding := by
  have isRule : rule .unusedVariable (· == .variableDeclarator) unusedVariable ∈ nodeRules := by
    simp [nodeRules]
  rw [filter_analyzeMethod isRule unusedVariable_about,
    Rule.flatMap_findings_eq_map fun site _ => unusedVariable_eq site context, List.filter_filter]
  simp only [Bool.and_comm]

theorem reported_iff_of_idle {context : MethodContext} {declarator : Site}
    (idle : isIdleLocal context declarator = true) :
    unusedVariable declarator context ≠ silent ↔ declarator.isLoopControl = false := by
  rw [unusedVariable_eq, idle, Bool.true_and]
  cases declarator.isLoopControl <;> simp [silent]

/-- A method reports its idle locals that control no loop. Outside while loops a local counts as
controlling a loop exactly if it stands in a for loop, so it counts only if it is declared in a
header, and an idle one is reported unless it is, exactly if it stands in no for loop other than by
a header. -/
theorem idle_locals_reported_iff (limits : Limits) (context : MethodContext) :
    (analyzeMethod limits context).findings.filter (·.category == .unusedVariable) =
        (context.method.ownScope.filter fun site => site.kind == .variableDeclarator &&
          (isIdleLocal context site && !site.isLoopControl)).map unusedFinding ∧
      ∀ declarator : Site, declarator.OutsideWhile →
        let byHeader := declarator.isInForLoop = true → declarator.isInForHeader = true
        declarator.isLoopControl = declarator.isInForLoop ∧
          ((declarator.isLoopControl = true ↔ declarator.isInForHeader = true) ↔ byHeader) ∧
          (isIdleLocal context declarator = true →
            ((unusedVariable declarator context ≠ silent ↔ declarator.isInForHeader = false) ↔
              byHeader)) := by
  refine ⟨filter_unusedVariable limits context, fun declarator outside => ?_⟩
  have control := Site.isLoopControl_eq_isInForLoop outside
  have header : declarator.isInForHeader = true → declarator.isInForLoop = true :=
    Site.isInForLoop_of_isInForHeader
  refine ⟨control, ?_, fun idle => ?_⟩
  · rw [control]
    exact ⟨fun agree => agree.mp, fun byHeader => ⟨byHeader, header⟩⟩
  · rw [reported_iff_of_idle idle, control, ← Bool.not_eq_true, ← Bool.not_eq_true]
    exact ⟨fun agree inLoop => not_not.mp fun inBody => agree.mpr inBody inLoop,
      fun byHeader => not_congr ⟨byHeader, header⟩⟩

def intLocal (source : String) (role : Option Role) (start : Nat) : Node :=
  let node := Node.ofAscii source
  node .localVariableDeclaration true role start (start + 10) [
    node (.other "integral_type") true (some .type) start (start + 3) [.token source "int" start],
    node .variableDeclarator true (some .declarator) (start + 4) (start + 9) [
      node .identifier true (some .name) (start + 4) (start + 5) [],
      .token source "=" (start + 6),
      node .decimalIntegerLiteral true (some .value) (start + 8) (start + 9) []],
    node .semicolon false none (start + 9) (start + 10) []]

def headerLocal : Node :=
  let source := "void f() \x7b int u = 1; for (int i = 0;;) \x7b \x7d \x7d"
  let node := Node.ofAscii source
  let token := Node.token source
  .voidMethod source 0 source.length [
    intLocal source none 11,
    node .forStatement true none 22 43 [
      token "for" 22, token "(" 26, intLocal source (some (.other "init")) 27,
      node .semicolon false none 37 38 [], token ")" 38,
      node .block true (some .body) 40 43 [token "\x7b" 40, token "\x7d" 42]]]

def loopBodyLocal : Node :=
  let source := "void f() \x7b for (;;) \x7b int k = 1; \x7d \x7d"
  let node := Node.ofAscii source
  let token := Node.token source
  .voidMethod source 0 source.length [
    node .forStatement true none 11 34 [
      token "for" 11, token "(" 15, node .semicolon false none 16 17 [],
      node .semicolon false none 17 18 [], token ")" 18,
      node .block true (some .body) 20 34 [
        token "\x7b" 20, intLocal source none 22, token "\x7d" 33]]]

def localsOf (method : Node) : List Site :=
  (Site.root method).ownScope.filter (·.kind == .variableDeclarator)

theorem header_local_exempt :
    let context := MethodContext.alone [] headerLocal
    ∃ declarator ∈ localsOf headerLocal, declarator.declaredName = "i" ∧
      declarator.OutsideWhile ∧ isIdleLocal context declarator = true ∧
      declarator.isInForHeader = true ∧ unusedVariable declarator context = silent ∧
      ((analyzeMethod {} context).findings.filter (·.category == .unusedVariable)).map
        (·.snippet) = ["u = 1"] := by
  intro context
  let declarator := (localsOf headerLocal).get ⟨1, by decide +kernel⟩
  have outside : declarator.OutsideWhile := by decide +kernel
  have idle : isIdleLocal context declarator = true := by decide +kernel
  have header : declarator.isInForHeader = true := by decide +kernel
  obtain ⟨findings, judged⟩ := idle_locals_reported_iff {} context
  obtain ⟨_, _, ofIdle⟩ := judged declarator outside
  have reported := (ofIdle idle).mpr fun _ => header
  refine ⟨declarator, List.get_mem .., by decide +kernel, outside, idle, header, ?_, ?_⟩
  · rw [header, ne_eq] at reported
    exact not_not.mp fun found => absurd (reported.mp found) (by decide)
  · rw [findings]
    decide +kernel

/-- A local of a loop body is taken for a loop variable, and nobody learns that it is unused. -/
theorem loop_body_local_unreported :
    let context := MethodContext.alone [] loopBodyLocal
    ∃ declarator ∈ localsOf loopBodyLocal, declarator.OutsideWhile ∧
      isIdleLocal context declarator = true ∧ declarator.isInForHeader = false ∧
      declarator.isLoopControl = true ∧ unusedVariable declarator context = silent := by
  decide +kernel

end Optimization

end JavaAudit
