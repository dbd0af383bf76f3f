import JavaAudit.Proofs.CategoryFindings

/-! Loops that are reported as endless.

A while loop over `true` is left by a break. The search for one starts below the statement that the
loop repeats, so a break that is this statement itself is not seen, and the loop is reported though
it never repeats anything. -/

set_option autoImplicit false

namespace JavaAudit

namespace Site

def isEndless (loop : Site) : Bool :=
  loop.kind == .whileStatement &&
    ((loop.child? .condition).bind unwrap?).any (·.kind == .trueLiteral)

/-- The statement that a loop repeats, with all that stands in it outside nested types. -/
def repeated (loop : Site) : List Site :=
  (loop.body?.map fun body => body :: body.scope).getD []

def isLeft (loop : Site) : Bool :=
  loop.repeated.any (·.kind == .breakStatement)

/-- Is the repeated statement itself the only break? -/
def repeatsBreak (loop : Site) : Bool :=
  loop.body?.any fun body => body.kind == .breakStatement && !Optimization.hasBreak body

theorem isLeft_eq (loop : Site) :
    loop.isLeft = (loop.body?.any Optimization.hasBreak || loop.repeatsBreak) := by
  unfold isLeft repeated repeatsBreak
  cases loop.body? with
  | none => rfl
  | some body =>
    simp only [Option.map_some, Option.getD_some, List.any_cons, Option.any_some,
      Optimization.hasBreak]
    cases body.scope.any (·.kind == .breakStatement) <;> simp

theorem not_hasBreak_of_repeatsBreak {loop : Site} (bare : loop.repeatsBreak = true) :
    loop.body?.any Optimization.hasBreak = false := by
  unfold repeatsBreak at bare
  cases body : loop.body? with
  | none => rfl
  | some body =>
    rw [body, Option.any_some, Bool.and_eq_true_iff, Bool.not_eq_true'] at bare
    exact bare.2

end Site

namespace Optimization

def endlessFinding (loop : Site) : Finding Category :=
  ⟨.infiniteLoop, "Potential infinite loop detected - no break statement found", loop.line,
    loop.render, .high⟩

/-- The verdict on a while loop: a break below the repeated statement is seen, the statement
itself is not. -/
theorem infiniteLoop_eq {loop : Site} (isWhile : loop.kind = .whileStatement)
    (context : MethodContext) :
    infiniteLoop loop context =
      .findings (if loop.isEndless && (!loop.isLeft || loop.repeatsBreak) then
        [endlessFinding loop] else []) := by
  have seen : (!loop.isLeft || loop.repeatsBreak) = !loop.body?.any hasBreak := by
    rw [Site.isLeft_eq]
    cases bare : loop.repeatsBreak with
    | true => rw [Site.not_hasBreak_of_repeatsBreak bare, Bool.or_true, Bool.not_false]
    | false => rw [Bool.or_false, Bool.or_false]
  rw [seen, Site.isEndless, isWhile, beq_self_eq_true, Bool.true_and]
  simp only [infiniteLoop]
  cases ((loop.child? .condition).bind Site.unwrap?).any (·.kind == .trueLiteral) <;>
    cases loop.body?.any hasBreak <;> rfl

theorem filter_infiniteLoop (limits : Limits) (context : MethodContext) :
    (analyzeMethod limits context).findings.filter (·.category == .infiniteLoop) =
      (context.method.ownScope.filter fun loop =>
        loop.isEndless && (!loop.isLeft || loop.repeatsBreak)).map endlessFinding := by
  have isRule : rule .infiniteLoop (· == .whileStatement) infiniteLoop ∈ nodeRules := by
    simp [nodeRules]
  have verdict : ∀ loop ∈ context.method.ownScope.filter (·.kind == .whileStatement),
      (rule .infiniteLoop (· == .whileStatement) infiniteLoop).check loop context = _ :=
    fun loop isWhile => infiniteLoop_eq (by simpa using (List.mem_filter.mp isWhile).2) context
  rw [filter_analyzeMethod isRule infiniteLoop_about, Rule.flatMap_findings_eq_map verdict,
    List.filter_filter]
  congr 2
  funext loop
  rw [Site.isEndless]
  cases loop.kind == .whileStatement <;> simp

/-- A method reports a while loop over `true` if no break leaves it or the repeated statement is
the only break. So such a loop is reported exactly if no break leaves it, unless it repeats a
bare break. -/
theorem endless_loops_reported_iff (limits : Limits) (context : MethodContext) :
    (analyzeMethod limits context).findings.filter (·.category == .infiniteLoop) =
        (context.method.ownScope.filter fun loop =>
          loop.isEndless && (!loop.isLeft || loop.repeatsBreak)).map endlessFinding ∧
      ∀ loop : Site, loop.isEndless = true →
        ((infiniteLoop loop context ≠ silent ↔ loop.isLeft = false) ↔
          loop.repeatsBreak = false) := by
  refine ⟨filter_infiniteLoop limits context, fun loop endless => ?_⟩
  have isWhile : loop.kind = .whileStatement := by
    simpa using (Bool.and_eq_true_iff.mp endless).1
  rw [infiniteLoop_eq isWhile, endless, Bool.true_and, Site.isLeft_eq]
  cases loop.repeatsBreak <;> cases loop.body?.any hasBreak <;> simp [silent]

def repeating (source : String) (statement : Node) : Node :=
  let node := Node.ofAscii source
  let token := Node.token source
  .voidMethod source 0 source.length [
    node .whileStatement true none 11 (source.length - 2) [
      token "while" 11,
      node .parenthesizedExpression true (some .condition) 17 23 [
        token "(" 17, node .trueLiteral true none 18 22 [], token ")" 22],
      statement]]

def breakAt (source : String) (role : Option Role) (start : Nat) : Node :=
  .ofAscii source .breakStatement true role start (start + 6) [
    .token source "break" start, .ofAscii source .semicolon false none (start + 5) (start + 6) []]

def repeatingBlock : Node :=
  let source := "void f() \x7b while (true) \x7b break; \x7d \x7d"
  repeating source (.ofAscii source .block true (some .body) 24 34 [
    .token source "\x7b" 24, breakAt source none 26, .token source "\x7d" 33])

def repeatingBreak : Node :=
  let source := "void f() \x7b while (true) break; \x7d"
  repeating source (breakAt source (some .body) 24)

theorem loop_with_break_unreported :
    let context := MethodContext.alone [] repeatingBlock
    ∃ loop ∈ (Site.root repeatingBlock).ownScope, loop.isEndless = true ∧
      loop.repeatsBreak = false ∧ loop.isLeft = true ∧ infiniteLoop loop context = silent ∧
      (analyzeMethod {} context).findings.filter (·.category == .infiniteLoop) = [] := by
  intro context
  let loop := (Site.root repeatingBlock).ownScope.get ⟨1, by decide +kernel⟩
  have endless : loop.isEndless = true := by decide +kernel
  have block : loop.repeatsBreak = false := by decide +kernel
  have left : loop.isLeft = true := by decide +kernel
  obtain ⟨findings, judged⟩ := endless_loops_reported_iff {} context
  have reported := (judged loop endless).mpr block
  refine ⟨loop, List.get_mem .., endless, block, left, ?_, ?_⟩
  · rw [left, ne_eq] at reported
    exact not_not.mp fun found => absurd (reported.mp found) (by decide)
  · rw [findings]
    decide +kernel

/-- A loop that ends with its first turn is reported as endless. -/
theorem bare_break_reported :
    let context := MethodContext.alone [] repeatingBreak
    ∃ loop ∈ (Site.root repeatingBreak).ownScope, loop.isEndless = true ∧ loop.isLeft = true ∧
      infiniteLoop loop context ≠ silent ∧
      (analyzeMethod {} context).findings = [endlessFinding loop] := by
  decide +kernel

end Optimization

end JavaAudit
