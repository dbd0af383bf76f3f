import JavaAudit.Optimization.RuleSet
import JavaAudit.Proofs.Ownership
import JavaAudit.Proofs.RuleIsolation
import JavaAudit.Security.RuleSet

/-! Findings of one category.

The rules of a table have different names, and each reports the category that it is named after. So
what a method has of a category is what one rule finds at the nodes that it inspects, in document
order. -/

set_option autoImplicit false

namespace JavaAudit

theorem flatMap_ite_singleton {α β : Type} (items : List α) (wanted : α → Bool) (f : α → β) :
    items.flatMap (fun item => if wanted item then [f item] else []) =
      (items.filter wanted).map f := by
  rw [flatMap_ite]
  exact List.flatMap_pure_eq_map _ _

namespace Rule

variable {γ κ : Type} {nameOf : κ → String} {rule : Rule γ (Finding κ)} {category : κ}

/-- The rule is named after the category and finds nothing of another one. -/
structure Serves (nameOf : κ → String) (rule : Rule γ (Finding κ)) (category : κ) : Prop where
  name : rule.name = nameOf category
  finds : ∀ site context, ∀ finding ∈ (rule.apply site context).findings,
    finding.category = category

variable [DecidableEq κ]

theorem Serves.filter_eq_self (serves : rule.Serves nameOf category) (site : Site) (context : γ) :
    (rule.apply site context).findings.filter (·.category == category) =
      (rule.apply site context).findings := by
  refine List.filter_eq_self.mpr fun finding member => ?_
  rw [serves.finds site context finding member, beq_self_eq_true]

theorem filter_applyAll_eq_nil {rules : List (Rule γ (Finding κ))}
    (serve : ∀ rule ∈ rules, ∃ category, rule.Serves nameOf category)
    (others : ∀ rule ∈ rules, rule.name ≠ nameOf category) (context : γ) (site : Site) :
    ((applyAll rules context site).flatMap (·.findings)).filter (·.category == category) = [] := by
  refine List.filter_eq_nil_iff.mpr fun finding member => ?_
  obtain ⟨application, isApplication, found⟩ := List.mem_flatMap.mp member
  obtain ⟨other, inspecting, rfl⟩ := List.mem_map.mp isApplication
  have inTable := (List.mem_filter.mp inspecting).1
  obtain ⟨otherCategory, serves⟩ := serve other inTable
  rw [serves.finds site context finding found, beq_iff_eq]
  rintro rfl
  exact others other inTable serves.name

theorem filter_applyAll {rules : List (Rule γ (Finding κ))} (member : rule ∈ rules)
    (distinct : (rules.map (·.name)).Nodup)
    (serve : ∀ rule ∈ rules, ∃ category, rule.Serves nameOf category)
    (serves : rule.Serves nameOf category) (context : γ) (site : Site) :
    ((applyAll rules context site).flatMap (·.findings)).filter (·.category == category) =
      if rule.inspects site.kind then (rule.apply site context).findings else [] := by
  obtain ⟨before, after, rfl⟩ := List.append_of_mem member
  rw [List.map_append, List.map_cons, List.nodup_middle, List.nodup_cons, serves.name,
    ← List.map_append] at distinct
  -- Names are distinct, so the rules on either side of this one are about other categories.
  have others : ∀ other ∈ before ++ after, other.name ≠ nameOf category :=
    fun other isOther same => distinct.1 (same ▸ List.mem_map_of_mem isOther)
  have none : ∀ part ⊆ before ++ after,
      ((applyAll part context site).flatMap (·.findings)).filter (·.category == category) = [] := by
    intro part inside
    refine filter_applyAll_eq_nil (fun other isOther => serve other ?_)
      (fun other isOther => others other (inside isOther)) context site
    have isPart := inside isOther
    simp only [List.mem_append, List.mem_cons] at isPart ⊢
    exact isPart.imp_right .inr
  have beforeNone := none before (List.subset_append_left ..)
  have afterNone := none after (List.subset_append_right ..)
  unfold applyAll at beforeNone afterNone ⊢
  rw [List.filter_append, List.map_append, List.flatMap_append, List.filter_append, beforeNone,
    List.nil_append, List.filter_cons]
  split
  · rw [List.map_cons, List.flatMap_cons, List.filter_append, afterNone, List.append_nil,
      serves.filter_eq_self]
  · exact afterNone

/-- What a table finds of a category is what the rule of the category finds. -/
theorem filter_findings_run {rules : List (Rule γ (Finding κ))} (member : rule ∈ rules)
    (distinct : (rules.map (·.name)).Nodup)
    (serve : ∀ rule ∈ rules, ∃ category, rule.Serves nameOf category)
    (serves : rule.Serves nameOf category) (start : Site) (context : γ) :
    ((run rules start context).flatMap (·.findings)).filter (·.category == category) =
      (start.scope.filter (rule.inspects ·.kind)).flatMap fun site =>
        (rule.apply site context).findings := by
  rw [run, List.flatMap_assoc, List.filter_flatMap]
  simp only [filter_applyAll member distinct serve serves]
  exact flatMap_ite start.scope (rule.inspects ·.kind) _

theorem flatMap_findings_eq_map {α : Type} {rule : Rule γ α} {context : γ} {sites : List Site}
    {reported : Site → Bool} {finding : Site → α}
    (verdict : ∀ site ∈ sites,
      rule.check site context = .findings (if reported site then [finding site] else [])) :
    sites.flatMap (fun site => (rule.apply site context).findings) =
      (sites.filter reported).map finding := by
  rw [← flatMap_ite_singleton]
  refine List.flatMap_congr fun site member => ?_
  rw [Application.findings, apply, verdict site member]

end Rule

namespace Optimization

theorem Reports.serves {rule : OptimizationRule} {category : Category}
    (reports : Reports rule category) : rule.Serves Category.name category :=
  ⟨reports.name, fun _ _ _ member => (reports.of_mem_apply member).1⟩

section
variable {category : Category} {inspects : Kind → Bool} {check : Site → MethodContext → Report}

theorem filter_analyzeMethod (isRule : rule category inspects check ∈ nodeRules)
    (about : ∀ site context, IsAbout category site (check site context)) (limits : Limits)
    (context : MethodContext) :
    (analyzeMethod limits context).findings.filter (·.category == category) =
      (context.method.ownScope.filter (inspects ·.kind)).flatMap fun site =>
        ((rule category inspects check).apply site context).findings := by
  have serves : (rule category inspects check).Serves Category.name category :=
    (reports_rule about).serves
  have serve : ∀ rule ∈ nodeRules, ∃ category, rule.Serves Category.name category :=
    fun rule inTable => (nodeRules_report rule inTable).imp fun _ reports => reports.serves
  have serveMethod : ∀ rule ∈ methodRules limits, ∃ category, rule.Serves Category.name category :=
    fun rule inTable =>
      (methodRules_report limits rule inTable).imp fun _ reports => reports.serves
  -- The rules for methods have other names than the rules for nodes, so they add nothing.
  have others : ∀ rule ∈ methodRules limits, rule.name ≠ category.name := by
    have apart : ∀ name ∈ nodeRules.map (·.name), name ∉ (methodRules limits).map (·.name) := by
      change ∀ name ∈ _, name ∉ [Category.name .emptyMethod, Category.name .tooManyParameters,
        Category.name .highCyclomaticComplexity]
      decide
    have isNamed : category.name ∈ nodeRules.map (·.name) := List.mem_map_of_mem isRule
    intro other inTable same
    exact apart _ isNamed (same ▸ List.mem_map_of_mem inTable)
  have ofMethod := Rule.filter_applyAll_eq_nil serveMethod others context context.method
  have findings : (analyzeMethod limits context).findings =
      ((context.method.body?.map fun body => Rule.run nodeRules body context).getD []).flatMap
          (·.findings) ++
        (Rule.applyAll (methodRules limits) context context.method).flatMap (·.findings) :=
    List.flatMap_append
  rw [findings, List.filter_append, ofMethod, List.append_nil, Site.ownScope]
  cases context.method.body? with
  | none => rfl
  | some body =>
    exact Rule.filter_findings_run isRule (by decide) serve serves body context

end

end Optimization

namespace Security

theorem Reports.serves {γ : Type} {rule : Rule γ (Finding Category)} {category : Category}
    (reports : Reports rule category) : rule.Serves Category.name category :=
  ⟨reports.name, fun _ _ _ member => (reports.of_mem_apply member).1⟩

section
variable {category : Category} {inspects : Kind → Bool} {check : Site → MethodContext → Report}

theorem filter_analyzeMethod (isRule : rule category inspects check ∈ nodeRules)
    (about : ∀ site context, IsAbout category site (check site context))
    (other : category ≠ .nullPointerDereference) (context : MethodContext)
    (flaggedLines : List Int) :
    (analyzeMethod context flaggedLines).findings.filter (·.category == category) =
      (context.method.ownScope.filter (inspects ·.kind)).flatMap fun site =>
        ((rule category inspects check).apply site context).findings := by
  have serves : (rule category inspects check).Serves Category.name category :=
    Reports.serves ⟨rfl, about⟩
  have serve : ∀ rule ∈ nodeRules, ∃ category, rule.Serves Category.name category :=
    fun rule inTable => (nodeRules_direct rule inTable).imp fun _ direct => direct.1.serves
  rw [Site.ownScope, analyzeMethod]
  cases context.method.body? with
  | none => rfl
  | some body =>
    have deferred :
        (dereferences context body flaggedLines).filter (·.category == category) = [] := by
      refine List.filter_eq_nil_iff.mpr fun finding member => ?_
      rw [(of_mem_dereferences member).1, beq_iff_eq]
      exact other.symm
    dsimp only
    rw [analyzeBody_findings, List.filter_append, deferred, List.append_nil]
    exact Rule.filter_findings_run isRule (by decide) serve serves body context

end

end Security

/-- The context of a method that stands alone, in a unit with the given fields. -/
def MethodContext.alone (fields : List TypedName) (method : Node) : MethodContext :=
  ⟨.root method, "A", .ofMethod fields (.root method), .ofMethod (.root method)⟩

end JavaAudit
