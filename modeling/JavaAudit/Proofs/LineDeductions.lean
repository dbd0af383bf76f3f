import Mathlib.Algebra.BigOperators.Group.List.Basic
import JavaAudit.Proofs.ScoreRange

/-! The score of a line from totals.

A line starts with a hundred points. Its issues and its decision points take some off, one after
the other, and only the result is kept from falling below zero. Main statement: in exact arithmetic
the score is what the totals leave of the hundred points, so the order of the issues does not
matter, decision points never raise it, and one more issue lowers it until it is zero. -/

set_option autoImplicit false

namespace JavaAudit

namespace Issue

def cost (issue : Issue) : Int :=
  issue.severity.penalty + issue.source.penalty

theorem cost_pos (issue : Issue) : 0 < issue.cost := by
  have severity : 5 ≤ issue.severity.penalty := by
    cases issue.severity <;> decide
  have source : 0 ≤ issue.source.penalty := by
    cases issue.source <;> decide
  unfold cost
  omega

/-- The points that all issues of a line take off. -/
def total (issues : List Issue) : Int :=
  (issues.map cost).sum

theorem total_cons (issue : Issue) (rest : List Issue) :
    total (issue :: rest) = issue.cost + total rest :=
  List.sum_cons

theorem total_nonneg (issues : List Issue) : 0 ≤ total issues := by
  induction issues with
  | nil => exact le_rfl
  | cons issue rest ih =>
    have positive := issue.cost_pos
    rw [total_cons]
    omega

theorem total_perm {issues others : List Issue} (same : others.Perm issues) :
    total others = total issues :=
  (same.map cost).sum_eq

theorem total_insert (before after : List Issue) (issue : Issue) :
    total (before ++ issue :: after) = issue.cost + total (before ++ after) := by
  rw [total_perm List.perm_middle, total_cons]

/-- Every security issue costs ten points beyond its severity. -/
theorem total_eq (issues : List Issue) :
    total issues = (issues.map (·.severity.penalty)).sum +
      10 * issues.countP (·.source == .security) := by
  induction issues with
  | nil => rfl
  | cons issue rest ih =>
    rw [total_cons, ih, List.map_cons, List.sum_cons, List.countP_cons, cost]
    cases issue.source <;> simp [IssueSource.penalty] <;> omega

end Issue

namespace Score

open Issue

theorem charge_rat (score : Rat) (issue : Issue) : charge score issue = score - issue.cost := by
  simp only [charge, Scalar.points_rat, cost]
  push_cast
  ring

theorem foldl_charge (issues : List Issue) (score : Rat) :
    issues.foldl charge score = score - total issues := by
  induction issues generalizing score with
  | nil => simp [total]
  | cons issue rest ih =>
    rw [List.foldl_cons, ih, charge_rat, total_cons]
    push_cast
    ring

theorem line_rat (issues : List Issue) (decisions : Nat) :
    (line issues decisions : Rat) =
      (max 0 (100 - total issues - min (2 * (decisions : Int)) 20) : Int) := by
  -- Points are only taken off, so the upper end of the range is never passed.
  have nonneg := total_nonneg issues
  have atMost : 100 - total issues - min (2 * (decisions : Int)) 20 ≤ 100 := by omega
  have left : (100 : Rat) - total issues - (min (2 * (decisions : Int)) 20 : Int) =
      (100 - total issues - min (2 * (decisions : Int)) 20 : Int) := by
    push_cast
    ring
  rw [line, clamp_rat, foldl_charge, Scalar.points_rat, Scalar.points_rat, Int.cast_ofNat, left, min_eq_left]
  · rw [Int.cast_max, Int.cast_zero]
  · exact_mod_cast atMost

theorem line_perm {issues others : List Issue} (same : others.Perm issues) (decisions : Nat) :
    (line others decisions : Rat) = line issues decisions := by
  rw [line_rat, line_rat, total_perm same]

theorem line_le_of_decisions_le (issues : List Issue) {decisions more : Nat}
    (atMost : decisions ≤ more) : (line issues more : Rat) ≤ line issues decisions := by
  rw [line_rat, line_rat, Int.cast_le]
  omega

/-- An issue more is felt unless nothing is left to take off. -/
theorem line_insert (before after : List Issue) (issue : Issue) (decisions : Nat) :
    (line (before ++ issue :: after) decisions : Rat) = 0 ∨
      (line (before ++ issue :: after) decisions : Rat) < line (before ++ after) decisions := by
  have positive := issue.cost_pos
  rw [line_rat, line_rat, total_insert, Int.cast_eq_zero, Int.cast_lt]
  omega

/-- The score of a line is what the penalties of its issues, ten points for every security issue
and two for every decision point, but at most twenty, leave of a hundred points. So it does not
depend on the order of the issues, it does not rise with the decision points, and one more issue
at any place lowers it unless it becomes zero. -/
theorem line_score_from_totals (issues : List Issue) (decisions : Nat) :
    (line issues decisions : Rat) =
        (max 0 (100 - (issues.map (·.severity.penalty)).sum -
          10 * issues.countP (·.source == .security) - min (2 * (decisions : Int)) 20) : Int) ∧
      (∀ others : List Issue, others.Perm issues →
        (line others decisions : Rat) = line issues decisions) ∧
      (∀ more : Nat, decisions ≤ more → (line issues more : Rat) ≤ line issues decisions) ∧
      ∀ (before after : List Issue) (issue : Issue), issues = before ++ after →
        (line (before ++ issue :: after) decisions : Rat) = 0 ∨
          (line (before ++ issue :: after) decisions : Rat) < line issues decisions := by
  refine ⟨?_, ?_, ?_, ?_⟩
  · rw [line_rat, total_eq, sub_add_eq_sub_sub]
  · intro others same
    exact line_perm same decisions
  · intro more atMost
    exact line_le_of_decisions_le issues atMost
  · intro before after issue split
    rw [split]
    exact line_insert before after issue decisions

/-- A critical issue between two others takes the score from 68 to 18, a second one to zero. -/
theorem critical_issues_between_others :
    let low : Issue := ⟨1, .optimization, .low, ""⟩
    let medium : Issue := ⟨1, .security, .medium, ""⟩
    let critical : Issue := ⟨1, .security, .critical, ""⟩
    let score (issues : List Issue) (decisions : Nat) : Rat := line issues decisions
    score [low, medium] 1 = 68 ∧ score [medium, low] 1 = score [low, medium] 1 ∧
      score [low, medium] 15 ≤ score [low, medium] 1 ∧
      score [low, critical, medium] 1 < score [low, medium] 1 ∧
      score [low, critical, critical, medium] 1 = 0 := by
  intro low medium critical score
  obtain ⟨_, anyOrder, antitone, lowers⟩ := line_score_from_totals [low, medium] 1
  obtain ⟨oneMore, _⟩ := line_score_from_totals [low, critical, medium] 1
  refine ⟨by decide +kernel, anyOrder _ (.swap ..), antitone 15 (by decide), ?_, by decide +kernel⟩
  refine (lowers [low] [medium] critical rfl).resolve_left fun zero => ?_
  rw [List.singleton_append, oneMore] at zero
  exact absurd zero (by decide +kernel)

end Score

end JavaAudit
