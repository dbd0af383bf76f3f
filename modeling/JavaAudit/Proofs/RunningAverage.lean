import Mathlib.Data.List.Induction
import JavaAudit.Proofs.ScoreRange

/-! Running averages in exact arithmetic.

The cut keeps the open run with its average and its size, and forgets the scores. Main statement:
after every line the average is the mean of the scores of the open run, so the average of a region
is the mean of the scores on its lines and lies between the least and the greatest of them. -/

set_option autoImplicit false

namespace JavaAudit

open Scalar

namespace Run

variable {S : Type} [Scalar S]

/-- The run that is open after one more line. -/
def advance (policy : RegionPolicy S) (opened : Option (Run S)) (entry : Int × S) : Run S :=
  match opened with
  | none => single entry.1 entry.2
  | some run =>
    if run.accepts policy entry.1 entry.2 then run.extend entry.1 entry.2
    else single entry.1 entry.2

def openAfter (policy : RegionPolicy S) (lines : List (Int × S)) : Option (Run S) :=
  lines.foldl (fun opened entry => some (advance policy opened entry)) none

variable {policy : RegionPolicy S}

theorem openAfter_concat (lines : List (Int × S)) (entry : Int × S) :
    openAfter policy (lines ++ [entry]) = some (advance policy (openAfter policy lines) entry) := by
  rw [openAfter, List.foldl_append, ← openAfter]
  rfl

/-- The open run is all that the cut of the later lines depends on. -/
theorem cut_append_of_openAfter {before : List (Int × S)} {run : Run S}
    (opened : openAfter policy before = some run) :
    ∃ closed, ∀ after, cut policy (before ++ after) = closed ++ cutFrom policy run after := by
  -- Line by line from the end: a line either extends the open run or closes it.
  induction before using List.reverseRecOn generalizing run with
  | nil => cases opened
  | append_singleton before entry ih =>
    rw [openAfter_concat, Option.some.injEq] at opened
    subst opened
    cases earlier : openAfter policy before with
    | none =>
      cases before using List.reverseRecOn with
      | nil => exact ⟨[], fun after => rfl⟩
      | append_singleton before entry =>
        rw [openAfter_concat] at earlier
        cases earlier
    | some run =>
      obtain ⟨closed, resumes⟩ := ih earlier
      by_cases accepted : run.accepts policy entry.1 entry.2 = true
      · refine ⟨closed, fun after => ?_⟩
        rw [List.append_assoc, List.singleton_append, resumes, cutFrom, if_pos accepted, advance,
          if_pos accepted]
      · refine ⟨closed ++ [run], fun after => ?_⟩
        rw [List.append_assoc, List.singleton_append, resumes, cutFrom, if_neg accepted, advance,
          if_neg accepted, List.append_assoc, List.singleton_append]

theorem exists_openAfter {lines : List (Int × S)} (started : lines ≠ []) :
    ∃ run earlier current, openAfter policy lines = some run ∧ lines = earlier ++ current ∧
      run.Covers current := by
  induction lines using List.reverseRecOn with
  | nil => exact absurd rfl started
  | append_singleton before entry ih =>
    rw [openAfter_concat]
    have reset : (single entry.1 entry.2).Covers [entry] := covers_single entry.1 entry.2
    by_cases first : before = []
    · subst first
      exact ⟨_, [], [entry], rfl, rfl, reset⟩
    · obtain ⟨run, earlier, current, opened, rfl, covers⟩ := ih first
      rw [opened, advance]
      split
      · exact ⟨_, earlier, current ++ [entry], rfl, by rw [List.append_assoc],
          covers.extend entry.1 entry.2⟩
      · exact ⟨_, earlier ++ current, [entry], rfl, rfl, reset⟩

end Run

/-- The scores from one line to another, both included. -/
def Assoc.scoresBetween {ν : Type} (lines : Assoc Int ν) (first last : Int) : List ν :=
  (lines.sortedEntries.filter fun entry => decide (first ≤ entry.1 ∧ entry.1 ≤ last)).map (·.2)

theorem between_of_mem {ν : Type} {run : List (Int × ν)} {first last entry : Int × ν}
    (isFirst : run.head? = some first) (isLast : run.getLast? = some last)
    (ascending : run.Pairwise fun left right => left.1 < right.1) (member : entry ∈ run) :
    first.1 ≤ entry.1 ∧ entry.1 ≤ last.1 := by
  constructor
  · obtain ⟨rest, rfl⟩ := List.head?_eq_some_iff.mp isFirst
    rcases List.mem_cons.mp member with rfl | later
    · exact Int.le_refl _
    · exact Int.le_of_lt ((List.pairwise_cons.mp ascending).1 entry later)
  · obtain ⟨start, rfl⟩ := List.getLast?_eq_some_iff.mp isLast
    rcases List.mem_append.mp member with earlier | same
    · exact Int.le_of_lt ((List.pairwise_append.mp ascending).2.2 entry earlier last (by simp))
    · rw [List.mem_singleton.mp same]

theorem filter_between {ν : Type} {earlier run later : List (Int × ν)} {first last : Int × ν}
    (isFirst : run.head? = some first) (isLast : run.getLast? = some last)
    (ascending : (earlier ++ run ++ later).Pairwise fun left right => left.1 < right.1) :
    (earlier ++ run ++ later).filter
      (fun entry => decide (first.1 ≤ entry.1 ∧ entry.1 ≤ last.1)) = run := by
  obtain ⟨upTo, _, beforeLater⟩ := List.pairwise_append.mp ascending
  obtain ⟨_, inRun, afterEarlier⟩ := List.pairwise_append.mp upTo
  rw [List.filter_append, List.filter_append, List.filter_eq_nil_iff.mpr,
    List.filter_eq_self.mpr, List.filter_eq_nil_iff.mpr, List.nil_append, List.append_nil]
  · intro entry member
    have := beforeLater last (List.mem_append_right _ (List.mem_of_getLast? isLast)) entry member
    rw [decide_eq_true_eq]
    omega
  · intro entry member
    exact decide_eq_true (between_of_mem isFirst isLast inRun member)
  · intro entry member
    have := afterEarlier entry member first (List.mem_of_head? isFirst)
    rw [decide_eq_true_eq]
    omega

theorem Assoc.scoresBetween_of_stretch {ν : Type} {lines : Assoc Int ν}
    {earlier current later : List (Int × ν)} {first last : Int}
    (stretch : lines.sortedEntries = earlier ++ current ++ later)
    (isFirst : current.head?.map (·.1) = some first)
    (isLast : current.getLast?.map (·.1) = some last) :
    lines.scoresBetween first last = current.map (·.2) := by
  obtain ⟨head, isHead, rfl⟩ := Option.map_eq_some_iff.mp isFirst
  obtain ⟨bottom, isBottom, rfl⟩ := Option.map_eq_some_iff.mp isLast
  have ascending := lines.sortedEntries_ascending
  rw [stretch] at ascending
  rw [scoresBetween, stretch, filter_between isHead isBottom ascending]

theorem runningAverage?_eq_some_rat {scores : List Rat} {average : Rat}
    (isAverage : runningAverage? scores = some average) :
    scores ≠ [] ∧ average = scores.sum / scores.length := by
  have scored : scores ≠ [] := by
    rintro rfl
    cases isAverage
  rw [runningAverage?_rat scored, mean_rat, Option.some.injEq] at isAverage
  exact ⟨scored, isAverage.symm⟩

namespace Region

/-- The average of the region is the mean of the scores, between the least and the greatest of
them, and the mean decides on the band. -/
structure Averages (region : Region Rat) (scores : List Rat) : Prop where
  mean : region.average = scores.sum / scores.length
  least : ∃ low, scores.min? = some low ∧ low ≤ region.average
  greatest : ∃ high, scores.max? = some high ∧ region.average ≤ high
  band : region.band = .ofScore (scores.sum / scores.length)
  intensity : region.intensity = (Band.ofScore (scores.sum / scores.length)).intensity

theorem Describes.averages {region : Region Rat} {run : List (Int × Rat)}
    (describes : region.Describes run) : region.Averages (run.map (·.2)) := by
  obtain ⟨scored, mean⟩ := runningAverage?_eq_some_rat describes.average
  obtain ⟨low, isLeast⟩ := Option.isSome_iff_exists.mp (List.isSome_min?_of_ne_nil scored)
  obtain ⟨high, isGreatest⟩ := Option.isSome_iff_exists.mp (List.isSome_max?_of_ne_nil scored)
  have between := mean_between scored fun score member =>
    ⟨(List.min?_eq_some_iff.mp isLeast).2 score member,
      (List.max?_eq_some_iff.mp isGreatest).2 score member⟩
  rw [mean_rat, ← mean] at between
  refine ⟨mean, ⟨low, isLeast, between.1⟩, ⟨high, isGreatest, between.2⟩, ?_, ?_⟩
  · rw [← mean, describes.band]
  · rw [← mean, ← describes.band, describes.intensity]

/-- Of the scores on the lines of the open run, its average is the mean, however many of the lines
have been seen. So the average of a region is the mean of the scores on its lines. -/
theorem averages_are_means (policy : RegionPolicy Rat) (lines : Assoc Int Rat) :
    (∀ before after, before ≠ [] → lines.sortedEntries = before ++ after →
      ∃ run closed, Run.openAfter policy before = some run ∧
        Run.cut policy lines.sortedEntries = closed ++ Run.cutFrom policy run after ∧
        before.getLast?.map (·.1) = some run.last ∧
        run.size = (lines.scoresBetween run.first run.last).length ∧
        run.average = (lines.scoresBetween run.first run.last).sum / run.size) ∧
      ∀ region ∈ ofScores policy lines,
        region.Averages (lines.scoresBetween region.startLine region.endLine) := by
  constructor
  · intro before after started split
    obtain ⟨run, earlier, current, opened, rfl, covers⟩ := Run.exists_openAfter started
    obtain ⟨closed, resumes⟩ := Run.cut_append_of_openAfter opened
    -- The run covers a stretch of the ascending lines, and so all lines between its first and
    -- last.
    have scores := Assoc.scoresBetween_of_stretch split covers.first covers.last
    obtain ⟨scored, mean⟩ := runningAverage?_eq_some_rat covers.average
    rw [List.length_map, covers.size] at mean
    refine ⟨run, closed, opened, ?_, ?_, ?_, ?_⟩
    · rw [split, resumes]
    · have isLast := covers.last
      rwa [List.getLast?_append_of_ne_nil _ (by simpa using scored)]
    · rw [scores, List.length_map, covers.size]
    · rw [scores, mean]
  · intro region member
    obtain ⟨earlier, run, later, stretch, _, describes⟩ := exists_stretch_of_mem member
    rw [Assoc.scoresBetween_of_stretch stretch describes.start describes.stop]
    exact describes.averages

/-- Scores of which the last is near the average of the two before it, but not near the first. -/
def slopingScores : Assoc Int Rat :=
  ⟨[(1, 90), (2, 70), (4, 62), (9, 10)], by decide⟩

theorem sloping_scores_averaged :
    (∃ run, Run.openAfter exactPolicy [(1, 90), (2, 70)] = some run ∧ run.average = 80 ∧
        run.average = (slopingScores.scoresBetween run.first run.last).sum / run.size) ∧
      slopingScores.scoresBetween 1 4 = [90, 70, 62] ∧
      Averages ⟨1, 4, 74, 2 / 5, .good⟩ [90, 70, 62] := by
  have sorted : slopingScores.sortedEntries = [(1, 90), (2, 70)] ++ [(4, 62), (9, 10)] :=
    Assoc.sortedEntries_of_ascending (by decide)
  have scores : slopingScores.scoresBetween 1 4 = [90, 70, 62] := by
    rw [Assoc.scoresBetween, sorted]
    decide
  obtain ⟨running, regional⟩ := averages_are_means exactPolicy slopingScores
  obtain ⟨run, _, opened, _, _, _, mean⟩ := running _ _ (by decide) sorted
  have average : run.average = 80 := by
    have known : Run.openAfter exactPolicy [(1, 90), (2, 70)] = some ⟨1, 2, 80, 2⟩ := by
      decide +kernel
    rw [opened, Option.some.injEq] at known
    rw [known]
  have region : (⟨1, 4, 74, 2 / 5, .good⟩ : Region Rat) ∈ ofScores exactPolicy slopingScores := by
    rw [ofScores, sorted]
    decide +kernel
  have averages := regional _ region
  rw [scores] at averages
  exact ⟨⟨run, opened, average, mean⟩, scores, averages⟩

end Region

end JavaAudit
