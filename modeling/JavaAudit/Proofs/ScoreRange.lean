import Mathlib.Algebra.Order.BigOperators.Group.List
import Mathlib.Algebra.Order.Field.Rat
import Mathlib.Tactic.FieldSimp
import Mathlib.Tactic.Linarith
import Mathlib.Tactic.Ring
import JavaAudit.Proofs.Segmentation
import JavaAudit.Quality.Score

/-! The range of scores in exact arithmetic.

Scores of lines, methods and types are brought into the range from 0 to 100. Averages are not, but
a running average is the mean of its scores, and a mean of scores in the range stays in it. -/

set_option autoImplicit false

namespace JavaAudit

open Scalar

theorem mean_rat (scores : List Rat) : mean scores = scores.sum / scores.length := by
  rw [mean, List.sum_eq_foldl]
  rfl

theorem averageFrom_rat (average : Rat) (size : Nat) (opened : 0 < size) (scores : List Rat) :
    averageFrom average size scores =
      (average * size + scores.sum) / (size + scores.length) := by
  induction scores generalizing average size with
  | nil =>
    have nonzero : (size : Rat) ≠ 0 := by positivity
    simp [averageFrom, nonzero]
  | cons score rest ih =>
    -- The total so far is kept: the new average times its size is the old total and the score.
    have total : (average * size + score) / (size + 1) * (size + 1 : Nat) =
        average * size + score := by
      push_cast
      field_simp
    calc
      averageFrom average size (score :: rest)
          = averageFrom ((average * size + score) / (size + 1)) (size + 1) rest := by
        simp only [averageFrom, points_rat]
        push_cast
        rfl
      _ = (average * size + score + rest.sum) / ((size + 1 : Nat) + rest.length) := by
        rw [ih _ _ (Nat.succ_pos size), total]
      _ = (average * size + (score :: rest).sum) / (size + (score :: rest).length) := by
        rw [List.sum_cons, List.length_cons]
        push_cast
        ring_nf

/-- The running average of scores is their mean. -/
theorem runningAverage?_rat {scores : List Rat} (scored : scores ≠ []) :
    runningAverage? scores = some (mean scores) := by
  cases scores with
  | nil => exact absurd rfl scored
  | cons score rest =>
    rw [runningAverage?, averageFrom_rat score 1 Nat.one_pos, mean_rat, List.sum_cons,
      List.length_cons]
    push_cast
    ring_nf

theorem mean_between {scores : List Rat} {low high : Rat} (scored : scores ≠ [])
    (between : ∀ score ∈ scores, low ≤ score ∧ score ≤ high) :
    low ≤ mean scores ∧ mean scores ≤ high := by
  have positive : (0 : Rat) < scores.length := by
    exact_mod_cast List.length_pos_iff.mpr scored
  have atLeast := List.card_nsmul_le_sum scores low fun score member => (between score member).1
  have atMost := List.sum_le_card_nsmul scores high fun score member => (between score member).2
  rw [nsmul_eq_mul] at atLeast atMost
  rw [mean_rat]
  constructor
  · rw [le_div_iff₀ positive]
    linarith
  · rw [div_le_iff₀ positive]
    linarith

namespace Score

def InRange (score : Rat) : Prop :=
  0 ≤ score ∧ score ≤ 100

theorem clamp_rat (score : Rat) : clamp score = max 0 (min score 100) := by
  simp only [clamp, points_rat, Int.cast_zero, Int.cast_ofNat, max_def_lt, min_def_lt]

theorem clamp_inRange (score : Rat) : InRange (clamp score) := by
  rw [clamp_rat]
  exact ⟨le_max_left _ _, max_le (by norm_num) (min_le_right _ _)⟩

theorem mean_inRange {scores : List Rat} (scored : scores ≠ [])
    (inRange : ∀ score ∈ scores, InRange score) : InRange (mean scores) :=
  mean_between scored inRange

theorem average_inRange {scores : List Rat} (inRange : ∀ score ∈ scores, InRange score) :
    InRange (average scores) := by
  -- Nothing to average is perfect, so an average needs no scores to be in the range.
  unfold average
  split
  case isTrue => exact ⟨by simp, by simp⟩
  case isFalse scored =>
    exact mean_inRange (fun empty => scored (List.isEmpty_iff.mpr empty)) inRange

theorem ofList_inRange {κ α : Type} [DecidableEq κ] {key : α → κ} {score : α → Rat}
    (inRange : ∀ item, InRange (score item)) (items : List α) :
    ∀ value ∈ (Assoc.ofList (items.map fun item => (key item, score item))).values,
      InRange value := by
  intro value member
  have scored := Assoc.mem_values_ofList member
  rw [List.map_map] at scored
  obtain ⟨item, _, rfl⟩ := List.mem_map.mp scored
  exact inRange item

variable (issues : Assoc Int (List Issue)) (decisions : Assoc Int Int)
  (methods : List MethodMetrics) (types : List TypeMetrics)

theorem lines_inRange :
    ∀ score ∈ (all issues decisions methods types).lines.values, InRange score := by
  intro score member
  obtain ⟨entry, isEntry, rfl⟩ := List.mem_map.mp member
  obtain ⟨line, _, rfl⟩ := List.mem_map.mp isEntry
  exact clamp_inRange _

theorem methods_inRange :
    ∀ score ∈ (all issues decisions methods types).methods.values, InRange score :=
  ofList_inRange (fun _ => clamp_inRange _) methods

theorem types_inRange :
    ∀ score ∈ (all issues decisions methods types).types.values, InRange score :=
  ofList_inRange (fun _ => clamp_inRange _) types

end Score

theorem Region.average_inRange {policy : RegionPolicy Rat} {lines : Assoc Int Rat}
    (inRange : ∀ score ∈ lines.values, Score.InRange score) {region : Region Rat}
    (member : region ∈ ofScores policy lines) : Score.InRange region.average := by
  -- The average of a region is a mean of scores of its lines.
  obtain ⟨run, sublist, _, describes⟩ := exists_run_of_mem member
  have average := describes.average
  have scored : run.map (·.2) ≠ [] := by
    intro empty
    rw [empty] at average
    cases average
  rw [runningAverage?_rat scored, Option.some.injEq] at average
  rw [← average]
  apply Score.mean_inRange scored
  intro score ofRun
  obtain ⟨entry, inRun, rfl⟩ := List.mem_map.mp ofRun
  have inLines := lines.sortedEntries_perm.mem_iff.mp (sublist.subset inRun)
  exact inRange entry.2 (List.mem_map_of_mem inLines)

end JavaAudit
