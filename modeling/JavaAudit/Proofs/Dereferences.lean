import Mathlib.Data.List.Pairwise
import JavaAudit.Proofs.Refusals
import JavaAudit.Proofs.RuleVisits

/-! Lines with a null dereference and another finding.

The search for null dereferences in a method skips the lines of findings about fields and the lines
of the other findings of that method. It knows nothing of the other methods. Main statement: a line
carries a null dereference and a finding of another category exactly if two different methods
report them. -/

set_option autoImplicit false

namespace JavaAudit

namespace Security

def linesOf (categories : Category → Bool) (findings : List (Finding Category)) : List Int :=
  (findings.filter (categories ·.category)).map (·.line)

def dereferenceLines : List (Finding Category) → List Int :=
  linesOf (· == .nullPointerDereference)

def otherLines : List (Finding Category) → List Int :=
  linesOf (· != .nullPointerDereference)

/-- No line carries a null dereference and a finding of another category. -/
def Apart (findings : List (Finding Category)) : Prop :=
  (dereferenceLines findings).Disjoint (otherLines findings)

theorem mem_linesOf {categories : Category → Bool} {findings : List (Finding Category)}
    {line : Int} :
    line ∈ linesOf categories findings ↔ ∃ finding ∈ findings,
      categories finding.category = true ∧ finding.line = line := by
  simp [linesOf, and_assoc]

theorem linesOf_append (categories : Category → Bool) (left right : List (Finding Category)) :
    linesOf categories (left ++ right) = linesOf categories left ++ linesOf categories right := by
  simp [linesOf]

theorem linesOf_flatMap {α : Type} (categories : Category → Bool) (items : List α)
    (findingsOf : α → List (Finding Category)) :
    linesOf categories (items.flatMap findingsOf) =
      items.flatMap fun item => linesOf categories (findingsOf item) := by
  simp only [linesOf, List.filter_flatMap, List.map_flatMap]

theorem dereferenceLines_analyzeFields (root : Site) :
    dereferenceLines (analyzeFields root).findings = [] := by
  rw [List.eq_nil_iff_forall_not_mem]
  intro line member
  obtain ⟨finding, found, isDereference, _⟩ := mem_linesOf.mp member
  exact category_of_mem_analyzeFields found (beq_iff_eq.mp isDereference)

variable {context : MethodContext} {flaggedLines : List Int} {line : Int}

theorem mem_analyzeMethod {finding : Finding Category} :
    finding ∈ (analyzeMethod context flaggedLines).findings ↔
      ∃ body, context.method.body? = some body ∧
        (finding ∈ directFindings context body ∨
          finding ∈ dereferences context body flaggedLines) := by
  unfold analyzeMethod
  cases context.method.body? with
  | none => simp
  | some body => simp [analyzeBody_findings]

/-- A null dereference is at a call of the method, on a line that is not flagged and has no other
finding of the method. -/
theorem of_mem_dereferenceLines
    (member : line ∈ dereferenceLines (analyzeMethod context flaggedLines).findings) :
    (∃ call ∈ context.method.ownScope, call.kind = .methodInvocation ∧ line = call.line) ∧
      line ∉ flaggedLines ∧ line ∉ otherLines (analyzeMethod context flaggedLines).findings := by
  obtain ⟨finding, found, isDereference, rfl⟩ := mem_linesOf.mp member
  obtain ⟨body, hasBody, direct | deferred⟩ := mem_analyzeMethod.mp found
  · exact absurd (beq_iff_eq.mp isDereference) (of_mem_directFindings direct).1
  obtain ⟨_, atCall, unflagged, undirected⟩ := of_mem_dereferences deferred
  refine ⟨by simpa [Site.ownScope, hasBody] using atCall, unflagged, ?_⟩
  intro clash
  obtain ⟨other, otherFound, isOther, sameLine⟩ := mem_linesOf.mp clash
  obtain ⟨otherBody, hasOtherBody, direct | deferred⟩ := mem_analyzeMethod.mp otherFound
  · cases hasBody.symm.trans hasOtherBody
    exact undirected (sameLine ▸ List.mem_map_of_mem direct)
  · exact bne_iff_ne.mp isOther (of_mem_dereferences deferred).1

theorem of_mem_otherLines
    (member : line ∈ otherLines (analyzeMethod context flaggedLines).findings) :
    ∃ site ∈ context.method.ownScope, line = site.line := by
  obtain ⟨finding, found, isOther, rfl⟩ := mem_linesOf.mp member
  obtain ⟨body, hasBody, direct | deferred⟩ := mem_analyzeMethod.mp found
  · simpa [Site.ownScope, hasBody] using (of_mem_directFindings direct).2
  · exact absurd (of_mem_dereferences deferred).1 (bne_iff_ne.mp isOther)

end Security

namespace Analysis

open Security (dereferenceLines otherLines Apart)

variable {tree : Node}

def analysedMethods (tree : Node) : List Site :=
  (contexts tree).map (·.method)

def fieldFindings (tree : Node) : List (Finding Security.Category) :=
  (Security.analyzeFields (.root tree)).findings

def methodFindings (tree : Node) (method : Site) : List (Finding Security.Category) :=
  (Security.analyzeMethod (ownContext tree method) ((fieldFindings tree).map (·.line))).findings

/-- No call of the one method starts on a line on which a node of the other starts. -/
def CallsAvoid (method other : Site) : Prop :=
  ∀ call ∈ method.ownScope, call.kind = .methodInvocation →
    ∀ site ∈ other.ownScope, call.line ≠ site.line

instance (method other : Site) : Decidable (CallsAvoid method other) :=
  inferInstanceAs (Decidable (∀ call ∈ method.ownScope, call.kind = .methodInvocation →
    ∀ site ∈ other.ownScope, call.line ≠ site.line))

def AvoidEachOther (left right : Site) : Prop :=
  CallsAvoid left right ∧ CallsAvoid right left

instance : Std.Symm AvoidEachOther where
  symm _ _ := And.symm

instance (left right : Site) : Decidable (AvoidEachOther left right) :=
  inferInstanceAs (Decidable (_ ∧ _))

/-- Of any two methods of the tree, the calls of each avoid the other. -/
def CallsSeparated (tree : Node) : Prop :=
  tree.methods.Pairwise AvoidEachOther

instance (tree : Node) : Decidable (CallsSeparated tree) :=
  inferInstanceAs (Decidable (tree.methods.Pairwise AvoidEachOther))

theorem CallsSeparated.avoid (separated : CallsSeparated tree) {left right : Site}
    (leftMethod : left ∈ tree.methods) (rightMethod : right ∈ tree.methods)
    (different : left ≠ right) : CallsAvoid left right :=
  (List.Pairwise.forall separated leftMethod rightMethod different).1

theorem scope_of_mem_contexts {context : MethodContext} (member : context ∈ contexts tree) :
    context.scope = .ofMethod (Site.root tree).fields context.method := by
  obtain ⟨metrics, _, found⟩ := List.mem_filterMap.mp member
  rw [context?_eq] at found
  obtain ⟨method, _, rfl⟩ := Option.map_eq_some_iff.mp found
  rfl

theorem mem_of_mem_analysedMethods {method : Site} (member : method ∈ analysedMethods tree) :
    method ∈ tree.methods := by
  obtain ⟨context, isContext, rfl⟩ := List.mem_map.mp member
  exact method_mem_of_context isContext

theorem findings_of_mem_contexts {context : MethodContext} (member : context ∈ contexts tree) :
    (Security.analyzeMethod context ((fieldFindings tree).map (·.line))).findings =
      methodFindings tree context.method := by
  unfold methodFindings
  apply Security.analyzeMethod_congr
  · rfl
  · exact scope_of_mem_contexts member

/-- A null dereference of a method clashes neither with a field nor with the method itself. -/
theorem dereferenceLines_disjoint_own (tree : Node) (method : Site) :
    (dereferenceLines (methodFindings tree method)).Disjoint
      (otherLines (fieldFindings tree ++ methodFindings tree method)) := by
  intro line member clash
  obtain ⟨_, unflagged, noOther⟩ := Security.of_mem_dereferenceLines member
  rw [otherLines, Security.linesOf_append] at clash
  rcases List.mem_append.mp clash with ofField | ofMethod
  · obtain ⟨other, found, _, rfl⟩ := Security.mem_linesOf.mp ofField
    exact unflagged (List.mem_map_of_mem found)
  · exact noOther ofMethod

theorem apart_iff (tree : Node) :
    Apart (fieldFindings tree ++ (analysedMethods tree).flatMap (methodFindings tree)) ↔
      ∀ left ∈ analysedMethods tree, ∀ right ∈ analysedMethods tree, left ≠ right →
        (dereferenceLines (methodFindings tree left)).Disjoint
          (otherLines (methodFindings tree right)) := by
  have noneOfFields : dereferenceLines (fieldFindings tree) = [] :=
    Security.dereferenceLines_analyzeFields _
  unfold dereferenceLines at noneOfFields
  simp only [Apart, dereferenceLines, otherLines, Security.linesOf_append,
    Security.linesOf_flatMap, noneOfFields, List.nil_append]
  constructor
  · intro apart left leftAnalysed right rightAnalysed _ line inLeft inRight
    exact apart (List.mem_flatMap.mpr ⟨left, leftAnalysed, inLeft⟩)
      (List.mem_append_right _ (List.mem_flatMap.mpr ⟨right, rightAnalysed, inRight⟩))
  · intro separate line dereference other
    obtain ⟨left, leftAnalysed, inLeft⟩ := List.mem_flatMap.mp dereference
    -- Its own method and the fields are excluded, so the other finding is of another method.
    have own := dereferenceLines_disjoint_own tree left inLeft
    rw [otherLines, Security.linesOf_append] at own
    rcases List.mem_append.mp other with ofField | ofMethod
    · exact own (List.mem_append_left _ ofField)
    · obtain ⟨right, rightAnalysed, inRight⟩ := List.mem_flatMap.mp ofMethod
      by_cases same : left = right
      · subst same
        exact own (List.mem_append_right _ inRight)
      · exact separate left leftAnalysed right rightAnalysed same inLeft inRight

theorem disjoint_of_callsSeparated (separated : CallsSeparated tree) {left right : Site}
    (leftMethod : left ∈ tree.methods) (rightMethod : right ∈ tree.methods)
    (different : left ≠ right) :
    (dereferenceLines (methodFindings tree left)).Disjoint
      (otherLines (methodFindings tree right)) := by
  intro line inLeft inRight
  obtain ⟨⟨call, inScope, isCall, atCall⟩, _⟩ := Security.of_mem_dereferenceLines inLeft
  obtain ⟨site, inOther, atSite⟩ := Security.of_mem_otherLines inRight
  apply separated.avoid leftMethod rightMethod different call inScope isCall site inOther
  exact Int.ofNat.inj (atCall.symm.trans atSite)

section
variable {S : Type} [Scalar S]

theorem securityIssues_of_analyze_ok {settings : Settings S} {path : String} {report : Report S}
    (success : (analyze settings path (some tree)).result = .ok report) :
    report.securityIssues =
      fieldFindings tree ++ (analysedMethods tree).flatMap (methodFindings tree) := by
  obtain ⟨types, rfl⟩ := report_of_analyze_ok success
  simp only [reportOn, assemble, analysedMethods, List.flatMap_map]
  congr 1
  apply List.flatMap_congr
  intro context isContext
  exact findings_of_mem_contexts isContext

/-- A null dereference never shares its line with a finding about a field or another finding of
its method. So a line carries a null dereference and a finding of another category exactly if one
method has the former and a different method the latter; that is excluded if no call of a method
starts on a line of another method. -/
theorem dereferences_apart_iff (settings : Settings S) (path : String) (tree : Node)
    (report : Report S) (success : (analyze settings path (some tree)).result = .ok report) :
    (∀ method ∈ analysedMethods tree, (dereferenceLines (methodFindings tree method)).Disjoint
      (otherLines (fieldFindings tree ++ methodFindings tree method))) ∧
    (Apart report.securityIssues ↔
      ∀ left ∈ analysedMethods tree, ∀ right ∈ analysedMethods tree, left ≠ right →
        (dereferenceLines (methodFindings tree left)).Disjoint
          (otherLines (methodFindings tree right))) ∧
    (CallsSeparated tree → Apart report.securityIssues) := by
  rw [securityIssues_of_analyze_ok success]
  refine ⟨fun method _ => dereferenceLines_disjoint_own tree method, apart_iff tree, ?_⟩
  intro separated
  rw [apart_iff]
  intro left leftAnalysed right rightAnalysed different
  exact disjoint_of_callsSeparated separated (mem_of_mem_analysedMethods leftAnalysed)
    (mem_of_mem_analysedMethods rightAnalysed) different

end

def callStatement (source : String) (start dot stop : Nat) : Node :=
  let node := Node.ofAscii source
  node .expressionStatement true none start stop [
    node .methodInvocation true none start (stop - 1) [
      node .identifier true (some .object) start dot [],
      .token source "." dot,
      node .identifier true (some .name) (dot + 1) (stop - 3) [],
      node .argumentList true (some .arguments) (stop - 3) (stop - 1) [
        .token source "(" (stop - 3), .token source ")" (stop - 2)]],
    node .semicolon false none (stop - 1) stop []]

/-- A method that calls the runtime and, one character later, a method that dereferences its
parameter. -/
def runtimeThenDereference (gap : String) : Node :=
  let opening := "\x7b"
  let closing := "\x7d"
  let source := s!"class A {opening} void g() {opening} Runtime.getRuntime(); {closing}" ++ gap ++
    s!"void f(B b) {opening} b.c(); {closing} {closing}"
  let node := Node.ofAscii source
  let token := Node.token source
  let parameter := node .formalParameter true none 52 55 [
    node (.other "type_identifier") true (some .type) 52 53 [],
    node .identifier true (some .name) 54 55 []]
  .soleClass source [
    .voidMethod source 10 44 [callStatement source 21 28 42],
    node .methodDeclaration true none 45 67 [
      node (.other "void_type") true (some .type) 45 49 [],
      node .identifier true (some .name) 50 51 [],
      node (.other "formal_parameters") true (some .parameters) 51 56 [
        token "(" 51, parameter, token ")" 55],
      node .block true (some .body) 57 67 [
        token opening 57, callStatement source 59 60 65, token closing 66]]]

theorem runtime_above_dereference_apart :
    ∃ (settings : Settings Rat) (report : Report Rat),
      (analyze settings "A.java" (some (runtimeThenDereference "\n"))).result = .ok report ∧
        Apart report.securityIssues ∧
        report.securityIssues.map (fun finding => (finding.category, finding.line)) =
          [(.dangerousMethodCall, 1), (.nullPointerDereference, 2)] := by
  -- On lines of their own, the two findings stay apart.
  let tree := runtimeThenDereference "\n"
  let settings : Settings Rat := { regions := { tolerance := 20 } }
  obtain ⟨report, success⟩ := exists_report settings "A.java" tree rfl (by decide +kernel)
  obtain ⟨_, _, apart⟩ := dereferences_apart_iff settings "A.java" tree report success
  refine ⟨settings, report, success, apart ?_, ?_⟩
  · decide +kernel
  · rw [securityIssues_of_analyze_ok success]
    decide +kernel

/-- On one line, the call of the runtime does not hide the null dereference. -/
theorem runtime_beside_dereference_clashes :
    ∃ (settings : Settings Rat) (report : Report Rat),
      (analyze settings "A.java" (some (runtimeThenDereference " "))).result = .ok report ∧
        ¬Apart report.securityIssues := by
  let tree := runtimeThenDereference " "
  let settings : Settings Rat := { regions := { tolerance := 20 } }
  obtain ⟨report, success⟩ := exists_report settings "A.java" tree rfl (by decide +kernel)
  refine ⟨settings, report, success, ?_⟩
  have both : 1 ∈ dereferenceLines report.securityIssues ∧
      1 ∈ otherLines report.securityIssues := by
    rw [securityIssues_of_analyze_ok success]
    decide +kernel
  intro apart
  exact apart both.1 both.2

end Analysis

end JavaAudit
