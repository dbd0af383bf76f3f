import JavaAudit.Complexity
import JavaAudit.Event
import JavaAudit.Scope

/-! Rules and how they run over a tree. -/

set_option autoImplicit false

namespace JavaAudit

/-- What a rule may ask about the method under analysis. -/
structure MethodContext where
  method : Site
  /-- The type that declares the method. -/
  owner : String
  scope : Scope
  complexity : Complexity
  deriving Repr

def MethodContext.name (context : MethodContext) : String :=
  context.method.declaredName

inductive Verdict (α : Type) where
  | findings (list : List α)
  /-- The node holds an integer literal that denotes no number. -/
  | malformedLiteral (line : Nat)
  /-- The rule could not be evaluated. -/
  | failed (reason : String)
  deriving DecidableEq, Repr

structure Rule (γ α : Type) where
  name : String
  inspects : Kind → Bool
  check : Site → γ → Verdict α

structure Application (α : Type) where
  rule : String
  line : Nat
  verdict : Verdict α
  deriving DecidableEq, Repr

namespace Application

variable {α : Type}

/-- A rule that fails, or skips a literal, finds nothing. -/
def findings (application : Application α) : List α :=
  match application.verdict with
  | .findings list => list
  | .malformedLiteral _ | .failed _ => []

def events (application : Application α) : List Event :=
  match application.verdict with
  | .findings _ => []
  | .malformedLiteral line => [.malformedLiteral line]
  | .failed reason => [.ruleFailed application.rule application.line reason]

end Application

namespace Rule

variable {γ α : Type}

def apply (rule : Rule γ α) (site : Site) (context : γ) : Application α :=
  ⟨rule.name, site.line, rule.check site context⟩

def applyAll (rules : List (Rule γ α)) (context : γ) (site : Site) : List (Application α) :=
  (rules.filter (·.inspects site.kind)).map (·.apply site context)

/-- Evaluate a table of rules at every node below `root`, outside nested types, in document
order. -/
def run (rules : List (Rule γ α)) (root : Site) (context : γ) : List (Application α) :=
  root.scope.flatMap (applyAll rules context)

/-- The findings of a table of rules are those of its rules at the nodes that they inspect. -/
theorem mem_findings_run {rules : List (Rule γ α)} {start : Site} {context : γ}
    {finding : α} :
    finding ∈ (run rules start context).flatMap (·.findings) ↔
      ∃ site ∈ start.scope, ∃ rule ∈ rules, rule.inspects site.kind = true ∧
        finding ∈ (rule.apply site context).findings := by
  simp only [run, applyAll, List.mem_flatMap, List.mem_map, List.mem_filter]
  constructor
  · rintro ⟨_, ⟨site, inScope, rule, ⟨inTable, inspects⟩, rfl⟩, found⟩
    exact ⟨site, inScope, rule, inTable, inspects, found⟩
  · rintro ⟨site, inScope, rule, inTable, inspects, found⟩
    exact ⟨_, ⟨site, inScope, rule, ⟨inTable, inspects⟩, rfl⟩, found⟩

theorem run_congr {rules : List (Rule γ α)} {start : Site} {left right : γ}
    (same : ∀ rule ∈ rules, ∀ site, rule.check site left = rule.check site right) :
    run rules start left = run rules start right := by
  unfold run
  congr 1
  funext site
  apply List.map_congr_left
  intro rule member
  simp only [apply, same rule (List.mem_filter.mp member).1 site]

end Rule

structure Pass (α : Type) where
  findings : List α
  events : List Event
  deriving DecidableEq, Repr

def Pass.ofApplications {α : Type} (applications : List (Application α)) : Pass α :=
  ⟨applications.flatMap (·.findings), applications.flatMap (·.events)⟩

end JavaAudit
