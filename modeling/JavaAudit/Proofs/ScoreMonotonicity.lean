import Mathlib.Algebra.Order.BigOperators.Group.List
import Mathlib.Data.List.Forall2
import JavaAudit.Analysis
import JavaAudit.Proofs.ScoreRange
import JavaAudit.Proofs.TypeScores

/-! Scores after one more issue.

An issue on a line that has a score already lowers averages but adds nothing to average over. Main
statement: in exact arithmetic, one more issue on a scored line raises no score of a line, a method
or a type and not the mean of the lines, and leaves the same lines, methods and types scored. -/

set_option autoImplicit false

namespace JavaAudit

namespace Assoc

variable {κ ν μ : Type}

def SameKey (rel : ν → μ → Prop) (left : κ × ν) (right : κ × μ) : Prop :=
  left.1 = right.1 ∧ rel left.2 right.2

def Related (rel : ν → μ → Prop) (left : Assoc κ ν) (right : Assoc κ μ) : Prop :=
  List.Forall₂ (SameKey rel) left.entries right.entries

variable {rel : ν → μ → Prop} {left : Assoc κ ν} {right : Assoc κ μ}

theorem Related.keys_eq (related : Related rel left right) : left.keys = right.keys := by
  rw [← List.forall₂_eq_eq_eq]
  exact List.rel_map (fun _ _ same => same.1) related

theorem Related.values (related : Related rel left right) :
    List.Forall₂ rel left.values right.values :=
  List.rel_map (fun _ _ same => same.2) related

theorem Related.sorted {left : Assoc Int ν} {right : Assoc Int μ}
    (related : Related rel left right) :
    List.Forall₂ (SameKey rel) left.sortedEntries right.sortedEntries := by
  -- Sorting looks at the keys alone, so it moves related entries to the same places.
  obtain ⟨sameLength, pairs⟩ := List.forall₂_iff_zip.mp related
  let both := left.entries.zip right.entries
  have isLeft : both.map (·.1) = left.entries := List.map_fst_zip sameLength.le
  have isRight : both.map (·.2) = right.entries := List.map_snd_zip sameLength.ge
  let sorted := both.mergeSort fun first second => first.1.1 ≤ second.1.1
  have sortedLeft : sorted.map (·.1) = left.sortedEntries := by
    rw [sortedEntries, ← isLeft]
    exact List.map_mergeSort fun _ _ _ _ => rfl
  have sortedRight : sorted.map (·.2) = right.sortedEntries := by
    rw [sortedEntries, ← isRight]
    apply List.map_mergeSort
    intro first isFirst second isSecond
    rw [(pairs isFirst).1, (pairs isSecond).1]
  rw [← sortedLeft, ← sortedRight, List.forall₂_map_left_iff, List.forall₂_map_right_iff,
    List.forall₂_same]
  intro pair member
  exact pairs ((List.mergeSort_perm both _).mem_iff.mp member)

section
variable [DecidableEq κ]

theorem lookup_related {entries : List (κ × ν)} {others : List (κ × μ)}
    (related : List.Forall₂ (SameKey rel) entries others) (key : κ) :
    Option.Rel rel (entries.lookup key) (others.lookup key) := by
  induction related with
  | nil => exact .none
  | @cons entry other _ _ same _ ih =>
    obtain ⟨entryKey, value⟩ := entry
    obtain ⟨_, otherValue⟩ := other
    obtain ⟨rfl, values⟩ := same
    rw [lookup_cons_ite, lookup_cons_ite]
    split
    · exact .some values
    · exact ih

theorem Related.get? (related : Related rel left right) (key : κ) :
    Option.Rel rel (left.get? key) (right.get? key) :=
  lookup_related related key

theorem Related.contains (related : Related rel left right) (key : κ) :
    left.contains key = right.contains key := by
  rw [Assoc.contains, Assoc.contains]
  generalize left.get? key = found, right.get? key = other, related.get? key = values
  cases values <;> rfl

theorem replaceIn_related {key : κ} {value : ν} {other : μ} (values : rel value other)
    {entries : List (κ × ν)} {others : List (κ × μ)}
    (related : List.Forall₂ (SameKey rel) entries others) :
    List.Forall₂ (SameKey rel) (replaceIn key value entries) (replaceIn key other others) := by
  induction related with
  | nil => exact .nil
  | cons same rest ih =>
    simp only [replaceIn, same.1]
    split
    · exact .cons ⟨rfl, values⟩ rest
    · exact .cons same ih

theorem Related.insert (related : Related rel left right) (key : κ) {value : ν} {other : μ}
    (values : rel value other) :
    Related rel (left.insert key value) (right.insert key other) := by
  have sameKnown := related.contains key
  unfold Related
  by_cases known : right.contains key = true
  · rw [entries_insert_of_contains (sameKnown.trans known), entries_insert_of_contains known]
    exact replaceIn_related values related
  · rw [entries_insert_of_not_contains (sameKnown ▸ known), entries_insert_of_not_contains known]
    exact List.rel_append related (.cons ⟨rfl, values⟩ .nil)

theorem related_ofList {entries : List (κ × ν)} {others : List (κ × μ)}
    (related : List.Forall₂ (SameKey rel) entries others) :
    Related rel (ofList entries) (ofList others) := by
  have start : Related rel (empty : Assoc κ ν) (empty : Assoc κ μ) := .nil
  refine List.rel_foldl ?_ start related
  rintro left right maps ⟨key, value⟩ ⟨_, other⟩ ⟨rfl, values⟩
  exact maps.insert key values

theorem replaceIn_related_self {rel : ν → ν → Prop} (refl : ∀ value, rel value value)
    {entries : List (κ × ν)} {key : κ} {former value : ν}
    (found : entries.lookup key = some former) (values : rel value former) :
    List.Forall₂ (SameKey rel) (replaceIn key value entries) entries := by
  induction entries with
  | nil => cases found
  | cons entry rest ih =>
    obtain ⟨entryKey, entryValue⟩ := entry
    rw [lookup_cons_ite] at found
    by_cases same : entryKey = key
    · rw [if_pos same.symm, Option.some.injEq] at found
      subst same found
      rw [replaceIn, if_pos rfl]
      exact .cons ⟨rfl, values⟩ (List.forall₂_same.mpr fun _ _ => ⟨rfl, refl _⟩)
    · rw [if_neg (Ne.symm same)] at found
      rw [replaceIn, if_neg same]
      exact .cons ⟨rfl, refl _⟩ (ih found)

theorem insert_related_self {rel : ν → ν → Prop} (refl : ∀ value, rel value value)
    {map : Assoc κ ν} {key : κ} {former value : ν} (found : map.get? key = some former)
    (values : rel value former) : Related rel (map.insert key value) map := by
  have known : map.contains key = true := by rw [Assoc.contains, found]; rfl
  rw [Related, entries_insert_of_contains known]
  exact replaceIn_related_self refl found values

end

abbrev NoHigher (lower upper : Assoc κ Rat) : Prop :=
  Related (· ≤ ·) lower upper

end Assoc

namespace Score

theorem clamp_mono {lower upper : Rat} (atMost : lower ≤ upper) : clamp lower ≤ clamp upper := by
  rw [clamp_rat, clamp_rat]
  exact max_le_max_left 0 (min_le_min_right 100 atMost)

/-- Averages of as many scores compare like the scores. -/
theorem average_mono {lower upper : List Rat} (atMost : List.Forall₂ (· ≤ ·) lower upper) :
    average lower ≤ average upper := by
  cases atMost with
  | nil => exact le_rfl
  | cons first rest =>
    have total := (List.Forall₂.cons first rest).sum_le_sum
    simp only [average, List.isEmpty_cons, Bool.false_eq_true, if_false, mean_rat,
      List.length_cons, rest.length_eq]
    exact div_le_div_of_nonneg_right total (Nat.cast_nonneg _)

theorem charge_le (score : Rat) (issue : Issue) : charge score issue ≤ score := by
  have severity : 0 ≤ issue.severity.penalty := by cases issue.severity <;> decide
  have source : 0 ≤ issue.source.penalty := by cases issue.source <;> decide
  have severityPoints : (0 : Rat) ≤ issue.severity.penalty := by exact_mod_cast severity
  have sourcePoints : (0 : Rat) ≤ issue.source.penalty := by exact_mod_cast source
  simp only [charge, Scalar.points_rat]
  linarith

theorem foldl_charge_le (issues : List Issue) (score : Rat) :
    issues.foldl charge score ≤ score := by
  induction issues generalizing score with
  | nil => exact le_rfl
  | cons issue rest ih => exact (ih (charge score issue)).trans (charge_le score issue)

/-- More issues never raise the score of a line. -/
theorem line_antitone {fewer more : List Issue} (extended : fewer <+: more) (decisions : Int) :
    (line more decisions : Rat) ≤ line fewer decisions := by
  obtain ⟨added, rfl⟩ := extended
  unfold line
  apply clamp_mono
  rw [List.foldl_append]
  exact sub_le_sub_right (foldl_charge_le added _) _

theorem method_mono (metrics : MethodMetrics) {lower upper : Assoc Int Rat}
    (noHigher : lower.NoHigher upper) : method metrics lower ≤ method metrics upper := by
  -- Which lines belong to the method is decided by their numbers, so the same ones are averaged.
  let isOwn (entry : Int × Rat) : Bool :=
    metrics.startLine ≤ entry.1 && entry.1 ≤ metrics.endLine
  have agree : ∀ first second, Assoc.SameKey (· ≤ ·) first second →
      (isOwn first = true ↔ isOwn second = true) := by
    intro first second same
    simp only [isOwn, same.1]
  have own := List.rel_filter agree noHigher
  have scores : List.Forall₂ (· ≤ ·) ((lower.entries.filter isOwn).map (·.2))
      ((upper.entries.filter isOwn).map (·.2)) := List.rel_map (fun _ _ same => same.2) own
  unfold method
  apply clamp_mono
  exact sub_le_sub_right (sub_le_sub_right (average_mono scores) _) _

theorem type_mono (metrics : TypeMetrics) {lower upper : Assoc String Rat}
    (noHigher : lower.NoHigher upper) : type metrics lower ≤ type metrics upper := by
  have scores : List.Forall₂ (· ≤ ·) (metrics.methodKeys.filterMap lower.get?)
      (metrics.methodKeys.filterMap upper.get?) := by
    refine List.rel_filterMap ?_ (List.forall₂_same.mpr fun _ _ => rfl)
    rintro key _ rfl
    exact noHigher.get? key
  unfold type
  apply clamp_mono
  exact sub_le_sub_right (sub_le_sub_right (average_mono scores) _) _

section
variable {fewer more : Assoc Int (List Issue)}
  (extended : Assoc.Related (fun long short => short <+: long) more fewer)
  (decisions : Assoc Int Int) (methods : List MethodMetrics) (types : List TypeMetrics)
include extended

theorem lines_noHigher :
    (all more decisions methods types : Scores Rat).lines.NoHigher
      (all fewer decisions methods types).lines := by
  refine List.rel_map ?_ extended.sorted
  rintro ⟨line, _⟩ ⟨_, _⟩ ⟨rfl, longer⟩
  exact ⟨rfl, line_antitone longer _⟩

theorem methods_noHigher :
    (all more decisions methods types : Scores Rat).methods.NoHigher
      (all fewer decisions methods types).methods := by
  apply Assoc.related_ofList
  rw [List.forall₂_map_left_iff, List.forall₂_map_right_iff, List.forall₂_same]
  intro metrics _
  exact ⟨rfl, method_mono metrics (lines_noHigher extended decisions methods types)⟩

theorem types_noHigher :
    (all more decisions methods types : Scores Rat).types.NoHigher
      (all fewer decisions methods types).types := by
  rw [all_types, all_types]
  apply Assoc.related_ofList
  rw [List.forall₂_map_left_iff, List.forall₂_map_right_iff, List.forall₂_same]
  intro metrics _
  exact ⟨rfl, type_mono metrics (methods_noHigher extended decisions methods types)⟩

end

/-- One more issue on a line that carries some raises no score: of a line, a method or a type, nor
the mean of the lines. The scored lines, methods and types stay the same. -/
theorem issue_never_raises_scores (issues : Assoc Int (List Issue)) (decisions : Assoc Int Int)
    (methods : List MethodMetrics) (types : List TypeMetrics) (line : Int)
    (present : List Issue) (carried : issues.get? line = some present) (issue : Issue) :
    let before : Scores Rat := all issues decisions methods types
    let after : Scores Rat := all (issues.insert line (present ++ [issue])) decisions methods types
    after.lines.NoHigher before.lines ∧ after.methods.NoHigher before.methods ∧
      after.types.NoHigher before.types ∧
      (after.lines.keys = before.lines.keys ∧ after.methods.keys = before.methods.keys ∧
        after.types.keys = before.types.keys) ∧
      ∀ report : Report Rat, ({ report with scores := after } : Report Rat).overallScore ≤
        ({ report with scores := before } : Report Rat).overallScore := by
  intro before after
  have extended : Assoc.Related (fun long short => short <+: long)
      (issues.insert line (present ++ [issue])) issues := by
    refine Assoc.insert_related_self ?_ carried ?_
    · exact fun _ => List.prefix_rfl
    · exact List.prefix_append present [issue]
  have lines := lines_noHigher extended decisions methods types
  have ofMethods := methods_noHigher extended decisions methods types
  have ofTypes := types_noHigher extended decisions methods types
  exact ⟨lines, ofMethods, ofTypes, ⟨lines.keys_eq, ofMethods.keys_eq, ofTypes.keys_eq⟩,
    fun _ => average_mono lines.values⟩

def plainIssue (line : Int) (source : IssueSource) (severity : Severity) : Issue :=
  ⟨line, source, severity, ""⟩

def issuesOnTwoLines (later : List Issue) : Assoc Int (List Issue) :=
  ⟨[(3, later), (1, [plainIssue 1 .security .medium])], by simp⟩

theorem sorted_issuesOnTwoLines (later : List Issue) :
    (issuesOnTwoLines later).sorted =
      ⟨[(1, [plainIssue 1 .security .medium]), (3, later)], by simp⟩ := by
  simp [issuesOnTwoLines, Assoc.sorted, Assoc.sortedEntries, List.mergeSort]

def smallClassScores (issues : Assoc Int (List Issue)) : Scores Rat :=
  all issues ⟨[(3, 1), (2, 1)], by decide⟩ [⟨"f", "f", "A", 1, 3, 0, 3⟩] [⟨"A", 1, 1, 0, ["f"]⟩]

theorem critical_issue_lowers_scores :
    let low := plainIssue 3 .optimization .low
    let before := smallClassScores (issuesOnTwoLines [low])
    let after := smallClassScores
      ((issuesOnTwoLines [low]).insert 3 ([low] ++ [plainIssue 3 .security .critical]))
    (after.lines.NoHigher before.lines ∧ after.methods.NoHigher before.methods ∧
      after.types.NoHigher before.types) ∧
    before = ⟨⟨[(1, 75), (3, 93)], by decide⟩, ⟨[("f", 147 / 2)], by decide⟩,
      ⟨[("A", 145 / 2)], by decide⟩⟩ ∧
    after = ⟨⟨[(1, 75), (3, 43)], by decide⟩, ⟨[("f", 97 / 2)], by decide⟩,
      ⟨[("A", 95 / 2)], by decide⟩⟩ := by
  -- A critical issue on one line lowers that line, its method and its type.
  intro low before after
  obtain ⟨lines, methods, types, _⟩ := issue_never_raises_scores (issuesOnTwoLines [low])
    ⟨[(3, 1), (2, 1)], by decide⟩ [⟨"f", "f", "A", 1, 3, 0, 3⟩] [⟨"A", 1, 1, 0, ["f"]⟩] 3 [low] rfl
    (plainIssue 3 .security .critical)
  have inserted : (issuesOnTwoLines [low]).insert 3 ([low] ++ [plainIssue 3 .security .critical]) =
      issuesOnTwoLines [low, plainIssue 3 .security .critical] := rfl
  refine ⟨⟨lines, methods, types⟩, ?_, ?_⟩
  · simp only [before, smallClassScores, all, sorted_issuesOnTwoLines]
    decide +kernel
  · simp only [after, inserted, smallClassScores, all, sorted_issuesOnTwoLines]
    decide +kernel

end Score

end JavaAudit
