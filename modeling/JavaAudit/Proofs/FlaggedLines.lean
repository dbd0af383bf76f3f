import JavaAudit.Proofs.CategoryFindings
import JavaAudit.Proofs.Dereferences

/-! Null dereferences and flagged lines.

The lines that the search for null dereferences passes over are gathered before it starts: lines
flagged elsewhere, lines with a finding of a node rule, and lines with a query call. So they only
sift what the search finds without them, and two null dereferences on one line do not hide each
other. -/

set_option autoImplicit false

namespace JavaAudit.Security

def DereferenceContext.unflagged (context : DereferenceContext) : DereferenceContext :=
  { context with flaggedLines := [] }

/-- All that a flagged line does is to silence the rule on the calls that start there. -/
theorem nullPointerDereference_eq_ite (call : Site) (context : DereferenceContext) :
    nullPointerDereference call context =
      if (call.line : Int) ∈ context.flaggedLines then silent
      else nullPointerDereference call context.unflagged := by
  split
  next flagged => exact nullPointerDereference_of_flagged flagged
  next unflagged =>
    have notFlagged : context.flaggedLines.contains (call.line : Int) = false := by
      simpa using unflagged
    simp only [nullPointerDereference, notFlagged, DereferenceContext.unflagged,
      List.contains_nil]
    rfl

theorem findings_apply_dereferenceRule (call : Site) (context : DereferenceContext) :
    (dereferenceRule.apply call context).findings =
      (dereferenceRule.apply call context.unflagged).findings.filter fun finding =>
        !context.flaggedLines.contains finding.line := by
  have atCall : ∀ finding ∈ (dereferenceRule.apply call context.unflagged).findings,
      finding.line = call.line :=
    fun finding member => (dereferenceRule_reports.of_mem_apply member).2
  have verdict : dereferenceRule.check call context =
      if (call.line : Int) ∈ context.flaggedLines then silent
      else dereferenceRule.check call context.unflagged :=
    nullPointerDereference_eq_ite call context
  rw [Rule.apply, Application.findings, verdict]
  split_ifs with flagged
  · refine (List.filter_eq_nil_iff.mpr fun finding member => ?_).symm
    simpa [atCall finding member] using flagged
  · refine (List.filter_eq_self.mpr fun finding member => ?_).symm
    simpa [atCall finding member] using flagged

/-- The null dereferences of a body if no line is passed over. -/
def candidates (context : MethodContext) (body : Site) : List (Finding Category) :=
  (Rule.run [dereferenceRule] body ⟨context, [], lookupNames body⟩).flatMap (·.findings)

/-- The lines that are passed over, whatever is flagged elsewhere. -/
def ownLines (context : MethodContext) (body : Site) : List Int :=
  (directFindings context body).map (·.line) ++ queryLines body

/-- The null dereferences of a body are sifted by the lines gathered before. -/
theorem dereferences_eq_filter (context : MethodContext) (body : Site) (flaggedLines : List Int) :
    dereferences context body flaggedLines =
      (candidates context body).filter fun finding =>
        !(flaggedLines ++ ownLines context body).contains finding.line := by
  let deferred := dereferenceContext context body flaggedLines (directFindings context body)
  have flagged : deferred.flaggedLines = flaggedLines ++ ownLines context body :=
    List.append_assoc ..
  have unflagged : deferred.unflagged = ⟨context, [], lookupNames body⟩ := rfl
  rw [dereferences, candidates, ← flagged, ← unflagged, Rule.run, Rule.run, List.flatMap_assoc,
    List.flatMap_assoc, List.filter_flatMap]
  -- A finding lies on the line of its call, so the calls are sifted one by one.
  refine List.flatMap_congr fun call _ => ?_
  unfold Rule.applyAll
  cases inspects : dereferenceRule.inspects call.kind with
  | false => simp [inspects]
  | true => simpa [inspects] using findings_apply_dereferenceRule call deferred

theorem dereferences_of_subset (context : MethodContext) (body : Site) {fewer more : List Int}
    (subset : fewer ⊆ more) :
    dereferences context body more =
      (dereferences context body fewer).filter fun finding => !more.contains finding.line := by
  rw [dereferences_eq_filter, dereferences_eq_filter, List.filter_filter]
  refine List.filter_congr fun finding _ => ?_
  by_cases inMore : finding.line ∈ more
  · simp [inMore]
  · have notInFewer : finding.line ∉ fewer := fun inFewer => inMore (subset inFewer)
    simp [inMore, notInFewer]

def isDereferenceOn (lines : List Int) (finding : Finding Category) : Bool :=
  finding.category == .nullPointerDereference && lines.contains finding.line

theorem analyzeMethod_of_subset (context : MethodContext) {fewer more : List Int}
    (subset : fewer ⊆ more) :
    (analyzeMethod context more).findings =
      (analyzeMethod context fewer).findings.filter fun finding =>
        !isDereferenceOn more finding := by
  unfold analyzeMethod
  cases context.method.body? with
  | none => rfl
  | some body =>
    -- The findings of the node rules are no null dereferences and stay as they are.
    have direct : (directFindings context body).filter (fun finding =>
        !isDereferenceOn more finding) = directFindings context body := by
      refine List.filter_eq_self.mpr fun finding member => ?_
      rw [isDereferenceOn, beq_false_of_ne (of_mem_directFindings member).1]
      rfl
    have deferred : (dereferences context body fewer).filter (fun finding =>
        !isDereferenceOn more finding) = dereferences context body more := by
      rw [dereferences_of_subset context body subset]
      refine List.filter_congr fun finding member => ?_
      rw [isDereferenceOn, (of_mem_dereferences member).1, beq_self_eq_true, Bool.true_and]
    simp only [analyzeBody_findings, List.filter_append, direct, deferred]

theorem line_not_mem_queryLines {context : MethodContext} {body : Site} {flaggedLines : List Int}
    {finding : Finding Category} (member : finding ∈ dereferences context body flaggedLines) :
    finding.line ∉ queryLines body := by
  rw [dereferences_eq_filter, List.mem_filter] at member
  have unflagged : finding.line ∉ flaggedLines ++ ownLines context body := by simpa using member.2
  exact fun onQuery =>
    unflagged (List.mem_append_right _ (List.mem_append_right _ onQuery))

def queryCalls (body : Site) : List Site :=
  body.below.filter fun site => site.kind == .methodInvocation && isQueryCall site.callName

theorem line_mem_queryLines {body call : Site} (isQuery : call ∈ queryCalls body) :
    (call.line : Int) ∈ queryLines body := by
  obtain ⟨inside, isCall⟩ := List.mem_filter.mp isQuery
  obtain ⟨kind, query⟩ := Bool.and_eq_true_iff.mp isCall
  exact List.mem_map.mpr ⟨call, List.mem_filter.mpr ⟨Site.mem_findBelow.mpr ⟨inside, kind⟩, query⟩,
    rfl⟩

/-- If more lines are flagged, a method loses exactly its null dereferences on those lines and keeps
all other findings in their order. None of its null dereferences lies on a flagged line, on the line
of a finding of another category, or on a line on which a query call of the body starts. -/
theorem flagged_lines_remove_dereferences (context : MethodContext) (fewer more : List Int)
    (subset : fewer ⊆ more) :
    (analyzeMethod context more).findings =
        (analyzeMethod context fewer).findings.filter
          (fun finding => !isDereferenceOn more finding) ∧
      ∀ finding ∈ (analyzeMethod context fewer).findings,
        finding.category = .nullPointerDereference →
          finding.line ∉ fewer ∧
          (∀ other ∈ (analyzeMethod context fewer).findings,
            other.category ≠ .nullPointerDereference → other.line ≠ finding.line) ∧
          ∀ body, context.method.body? = some body → ∀ call ∈ queryCalls body,
            finding.line ≠ call.line := by
  refine ⟨analyzeMethod_of_subset context subset, fun finding found isDereference => ?_⟩
  have onLine : finding.line ∈ dereferenceLines (analyzeMethod context fewer).findings :=
    mem_linesOf.mpr ⟨finding, found, beq_iff_eq.mpr isDereference, rfl⟩
  obtain ⟨_, unflagged, noOther⟩ := of_mem_dereferenceLines onLine
  refine ⟨unflagged, fun other otherFound isOther sameLine => ?_,
    fun body hasBody call isQuery => ?_⟩
  · exact noOther (mem_linesOf.mpr ⟨other, otherFound, bne_iff_ne.mpr isOther, sameLine⟩)
  · obtain ⟨ownBody, hasOwnBody, direct | deferred⟩ := mem_analyzeMethod.mp found
    · exact absurd isDereference (of_mem_directFindings direct).1
    · cases hasBody.symm.trans hasOwnBody
      intro sameLine
      exact line_not_mem_queryLines deferred (sameLine ▸ line_mem_queryLines isQuery)

def twoDereferences (gap : String) : Node :=
  let opening := "\x7b"
  let closing := "\x7d"
  let source := s!"void f(B a, B b) {opening} a.x();{gap}b.y(); {closing}"
  let node := Node.ofAscii source
  let token := Node.token source
  let parameter (start : Nat) := node .formalParameter true none start (start + 3) [
    node (.other "type_identifier") true (some .type) start (start + 1) [],
    node .identifier true (some .name) (start + 2) (start + 3) []]
  node .methodDeclaration true none 0 34 [
    node (.other "void_type") true (some .type) 0 4 [],
    node .identifier true (some .name) 5 6 [],
    node (.other "formal_parameters") true (some .parameters) 6 16 [
      token "(" 6, parameter 7, token "," 10, parameter 12, token ")" 15],
    node .block true (some .body) 17 34 [
      token opening 17, Analysis.callStatement source 19 20 25,
      Analysis.callStatement source 26 27 32, token closing 33]]

theorem second_dereference_removed :
    let context := MethodContext.alone [] (twoDereferences "\n")
    (analyzeMethod context [2]).findings =
        (analyzeMethod context []).findings.filter (fun finding => !isDereferenceOn [2] finding) ∧
      (analyzeMethod context []).findings.map (·.line) = [1, 2] ∧
      (analyzeMethod context [2]).findings.map (·.line) = [1] := by
  -- On lines of their own, a flag on the second line removes the second null dereference.
  intro context
  obtain ⟨removed, _⟩ := flagged_lines_remove_dereferences context [] [2] (List.nil_subset _)
  exact ⟨removed, by decide +kernel, by decide +kernel⟩

/-- On one line, neither null dereference hides the other. -/
theorem dereferences_share_line :
    let findings := (analyzeMethod (.alone [] (twoDereferences " ")) []).findings
    ∃ first ∈ findings, ∃ second ∈ findings, first ≠ second ∧ first.line = second.line ∧
      first.category = .nullPointerDereference ∧ second.category = .nullPointerDereference := by
  decide +kernel

end JavaAudit.Security
