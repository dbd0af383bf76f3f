import Mathlib.Data.List.Count
import JavaAudit.Proofs.Refusals

/-! Analyses under higher limits.

The limits decide two checks of a method and nothing else. Main statement: an analysis under higher
limits loses some of the findings of these two checks, keeps all others in their order, and changes
neither the security issues nor what is measured. -/

set_option autoImplicit false

namespace JavaAudit

/-- The first list is the second without some of its items, all of which can be dropped. -/
inductive Thinned {α : Type} (droppable : α → Prop) : List α → List α → Prop where
  | nil : Thinned droppable [] []
  | keep (item : α) {kept full : List α} :
      Thinned droppable kept full → Thinned droppable (item :: kept) (item :: full)
  | drop {item : α} {kept full : List α} :
      droppable item → Thinned droppable kept full → Thinned droppable kept (item :: full)

namespace Thinned

variable {α β : Type} {droppable : α → Prop}

theorem refl (list : List α) : Thinned droppable list list := by
  induction list with
  | nil => exact .nil
  | cons item rest ih => exact .keep item ih

theorem append {kept full otherKept otherFull : List α} (thinned : Thinned droppable kept full)
    (other : Thinned droppable otherKept otherFull) :
    Thinned droppable (kept ++ otherKept) (full ++ otherFull) := by
  induction thinned with
  | nil => exact other
  | keep item _ ih => exact .keep item ih
  | drop allowed _ ih => exact .drop allowed ih

theorem flatMap {kept full : β → List α} (parts : List β)
    (thinned : ∀ part, Thinned droppable (kept part) (full part)) :
    Thinned droppable (parts.flatMap kept) (parts.flatMap full) := by
  induction parts with
  | nil => exact .nil
  | cons part rest ih =>
    rw [List.flatMap_cons, List.flatMap_cons]
    exact (thinned part).append ih

theorem sublist {kept full : List α} (thinned : Thinned droppable kept full) :
    kept.Sublist full := by
  induction thinned with
  | nil => exact .slnil
  | keep item _ ih => exact ih.cons_cons item
  | drop _ _ ih => exact ih.cons _

variable [DecidableEq α]

theorem count_eq {kept full : List α} (thinned : Thinned droppable kept full) {item : α}
    (needed : ¬droppable item) : kept.count item = full.count item := by
  induction thinned with
  | nil => rfl
  | keep other _ ih => rw [List.count_cons, List.count_cons, ih]
  | drop allowed _ ih =>
    rw [ih, List.count_cons_of_ne]
    rintro rfl
    exact needed allowed

theorem droppable_of_mem_diff {kept full : List α} (thinned : Thinned droppable kept full)
    {item : α} (missing : item ∈ full.diff kept) : droppable item := by
  by_contra needed
  have present : 0 < (full.diff kept).count item := List.count_pos_iff.mpr missing
  rw [List.count_diff, thinned.count_eq needed] at present
  omega

end Thinned

/-- The first rule inspects what the second does, and finds the same but for droppable findings. -/
structure Rule.Weakens {γ α : Type} (droppable : α → Prop) (weaker stronger : Rule γ α) :
    Prop where
  inspects : weaker.inspects = stronger.inspects
  findings : ∀ site context, Thinned droppable (weaker.apply site context).findings
    (stronger.apply site context).findings

theorem Rule.Weakens.refl {γ α : Type} {droppable : α → Prop} (rule : Rule γ α) :
    rule.Weakens droppable rule :=
  ⟨rfl, fun _ _ => .refl _⟩

theorem Rule.applyAll_thinned {γ α : Type} {droppable : α → Prop}
    {weaker stronger : List (Rule γ α)}
    (weakens : List.Forall₂ (Weakens droppable) weaker stronger) (context : γ) (site : Site) :
    Thinned droppable ((applyAll weaker context site).flatMap (·.findings))
      ((applyAll stronger context site).flatMap (·.findings)) := by
  induction weakens with
  | nil => exact .nil
  | cons first _ ih =>
    unfold applyAll at ih ⊢
    simp only [List.filter_cons, first.inspects]
    split
    · simp only [List.map_cons, List.flatMap_cons]
      exact (first.findings site context).append ih
    · exact ih

/-- The second limits let pass what the first do, and grade alike what both refuse. -/
structure Limits.Relaxed (strict lax : Limits) : Prop where
  complexity : strict.complexity ≤ lax.complexity
  parameters : strict.parameters ≤ lax.parameters
  highComplexity : strict.highComplexity = lax.highComplexity

namespace Optimization

/-- The finding comes from a check against a limit. -/
def IsLimited (finding : Finding Category) : Prop :=
  finding.category = .highCyclomaticComplexity ∨ finding.category = .tooManyParameters

/-- A check that reports what is above a limit reports no more under a higher one. -/
theorem thinned_of_le {strict lax : Int} (atMost : strict ≤ lax) (measured : Int)
    {finding : Finding Category} (limited : IsLimited finding) (name : String) (line : Nat) :
    Thinned IsLimited
      (Application.findings ⟨name, line, if measured ≤ lax then silent else .findings [finding]⟩)
      (Application.findings
        ⟨name, line, if measured ≤ strict then silent else .findings [finding]⟩) := by
  by_cases passes : measured ≤ strict
  · rw [if_pos passes, if_pos (Int.le_trans passes atMost)]
    exact .nil
  · rw [if_neg passes]
    by_cases passesNow : measured ≤ lax
    · rw [if_pos passesNow]
      exact .drop limited .nil
    · rw [if_neg passesNow]
      exact .refl _

section
variable {strict lax : Limits} (relaxed : strict.Relaxed lax)
include relaxed

theorem tooManyParameters_weakens :
    (rule .tooManyParameters Kind.isMethod (tooManyParameters lax)).Weakens IsLimited
      (rule .tooManyParameters Kind.isMethod (tooManyParameters strict)) where
  inspects := rfl
  findings _ _ := thinned_of_le relaxed.parameters _ (.inr rfl) _ _

theorem highCyclomaticComplexity_weakens :
    (rule .highCyclomaticComplexity Kind.isMethod (highCyclomaticComplexity lax)).Weakens IsLimited
      (rule .highCyclomaticComplexity Kind.isMethod (highCyclomaticComplexity strict)) where
  inspects := rfl
  findings site context := by
    -- The grade of the finding depends on the limit that both have in common.
    simp only [rule, Rule.apply, highCyclomaticComplexity, relaxed.highComplexity]
    exact thinned_of_le relaxed.complexity _ (.inl rfl) _ _

theorem methodRules_weaken :
    List.Forall₂ (Rule.Weakens IsLimited) (methodRules lax) (methodRules strict) :=
  .cons (.refl _) (.cons (tooManyParameters_weakens relaxed)
    (.cons (highCyclomaticComplexity_weakens relaxed) .nil))

theorem analyzeMethod_thinned (context : MethodContext) :
    Thinned IsLimited (analyzeMethod lax context).findings
      (analyzeMethod strict context).findings := by
  -- The rules for nodes do not ask for the limits, so only the rules for the method lose
  -- findings.
  simp only [analyzeMethod, Pass.ofApplications, applications, List.flatMap_append]
  exact (Thinned.refl _).append
    (Rule.applyAll_thinned (methodRules_weaken relaxed) context context.method)

end

end Optimization

namespace Analysis

variable {S : Type} [Scalar S]

/-- The second report lacks findings of the checks against limits, and nothing else. -/
structure LosesLimited (before after : Report S) : Prop where
  optimizations : after.optimizations.Sublist before.optimizations
  missing : ∀ finding ∈ before.optimizations.diff after.optimizations,
    Optimization.IsLimited finding
  securityIssues : after.securityIssues = before.securityIssues
  types : after.types = before.types
  methods : after.methods = before.methods
  lineDecisions : after.lineDecisions = before.lineDecisions
  summary : after.summary = before.summary

theorem reportOn_loses {strict lax : Settings S} (relaxed : strict.limits.Relaxed lax.limits)
    (path : String) (tree : Node) (types : List TypeMetrics) :
    LosesLimited (reportOn strict path tree types) (reportOn lax path tree types) := by
  have thinned : Thinned Optimization.IsLimited (reportOn lax path tree types).optimizations
      (reportOn strict path tree types).optimizations := by
    simp only [reportOn, assemble, List.flatMap_map]
    exact .flatMap _ fun context => Optimization.analyzeMethod_thinned relaxed context
  exact {
    optimizations := thinned.sublist
    missing := fun _ => thinned.droppable_of_mem_diff
    securityIssues := by simp only [reportOn, assemble, List.flatMap_map, analyzeMethod]
    types := rfl
    methods := rfl
    lineDecisions := rfl
    summary := rfl }

/-- Under higher limits, and any settings of the regions, an analysis fails as before or its report
lacks findings of the checks against limits only. -/
theorem relaxed_limits_lose_limited (strict lax : Settings S)
    (relaxed : strict.limits.Relaxed lax.limits) (path : String) (tree : Option Node) :
    (∃ error, (analyze strict path tree).result = .error error ∧
      (analyze lax path tree).result = .error error) ∨
    ∃ before after, (analyze strict path tree).result = .ok before ∧
      (analyze lax path tree).result = .ok after ∧ LosesLimited before after := by
  obtain ⟨error, refused, failed⟩ | ⟨root, before, rfl, isProgram, declares, success⟩ :=
    analyze_cases strict path tree
  · -- A refusal depends on the tree alone.
    exact .inl ⟨error, failed, (analyze_error_iff lax path tree error).mpr refused⟩
  · obtain ⟨after, relaxedSuccess⟩ :=
      (analyze_ok_iff lax path (some root)).mpr ⟨root, rfl, isProgram, declares⟩
    refine .inr ⟨before, after, success, relaxedSuccess, ?_⟩
    rw [report_eq_of_analyze_ok success, report_eq_of_analyze_ok relaxedSuccess]
    exact reportOn_loses relaxed path root _

theorem overloads_lose_complexity :
    ∃ (strict lax : Settings Rat) (before after : Report Rat),
      strict.limits.Relaxed lax.limits ∧
      (analyze strict "A.java" (some overloadsByLine)).result = .ok before ∧
      (analyze lax "A.java" (some overloadsByLine)).result = .ok after ∧
      LosesLimited before after ∧
      before.optimizations.map (·.category) =
        [.unusedVariable, .highCyclomaticComplexity, .unusedVariable, .highCyclomaticComplexity,
          .unusedVariable, .highCyclomaticComplexity] ∧
      after.optimizations.map (·.category) = List.replicate 3 .unusedVariable := by
  -- Under a limit of no complexity at all each of three methods is reported besides its unused
  -- variable; under the next one the variables are left.
  let strict : Settings Rat := { limits := { complexity := 0 }, regions := { tolerance := 20 } }
  let lax : Settings Rat :=
    { limits := { complexity := 1 }, regions := { tolerance := 0, lineGap := -1 } }
  have relaxed : strict.limits.Relaxed lax.limits := ⟨by decide, by decide, rfl⟩
  obtain ⟨_, failed, _⟩ | ⟨before, after, success, relaxedSuccess, loses⟩ :=
    relaxed_limits_lose_limited strict lax relaxed "A.java" (some overloadsByLine)
  · cases failed.symm.trans (analyzeRoot_ok strict "A.java" overloadsByLine)
  · refine ⟨strict, lax, before, after, relaxed, success, relaxedSuccess, loses, ?_, ?_⟩
    · rw [report_eq_of_analyze_ok success]
      decide +kernel
    · rw [report_eq_of_analyze_ok relaxedSuccess]
      decide +kernel

end Analysis

end JavaAudit
