import Mathlib.Data.List.Flatten
import Mathlib.Data.List.Forall2
import JavaAudit.Quality.Region

/-! Regions as a greedy segmentation.

There is one way to cut the scored lines into runs such that each line joins the lines of its run
before it, and no run could have taken the line after it. Main statement: the regions of a map of
scores are the runs of this cut that are long enough. -/

set_option autoImplicit false

namespace JavaAudit

open Scalar

variable {S : Type} [Scalar S]

/-- The average of `size` scores after more scores, one at a time. -/
def averageFrom (average : S) (size : Nat) : List S → S
  | [] => average
  | score :: rest =>
    averageFrom ((average * points size + score) / points (size + 1)) (size + 1) rest

def runningAverage? : List S → Option S
  | [] => none
  | score :: rest => some (averageFrom score 1 rest)

theorem averageFrom_concat (average : S) (size : Nat) (scores : List S) (score : S) :
    averageFrom average size (scores ++ [score]) =
      (averageFrom average size scores * points (size + scores.length : Nat) + score) /
        points ((size + scores.length : Nat) + 1) := by
  induction scores generalizing average size with
  | nil => rfl
  | cons next rest ih =>
    have shifted : size + 1 + rest.length = size + (next :: rest).length := by
      rw [List.length_cons]
      omega
    rw [List.cons_append, averageFrom, ih, shifted, averageFrom]

theorem runningAverage?_concat {scores : List S} {average : S}
    (earlier : runningAverage? scores = some average) (score : S) :
    runningAverage? (scores ++ [score]) =
      some ((average * points scores.length + score) / points (scores.length + 1)) := by
  cases scores with
  | nil => cases earlier
  | cons first rest =>
    obtain rfl := Option.some.inj earlier
    have shifted : 1 + rest.length = (first :: rest).length := by
      rw [List.length_cons]
      omega
    rw [List.cons_append, runningAverage?, averageFrom_concat, shifted]

/-- A line joins the scored lines before it: it is close enough to the last of them, and its score
to their running average. -/
def Joins (policy : RegionPolicy S) (before : List (Int × S)) (entry : Int × S) : Prop :=
  ∃ last average, before.getLast? = some last ∧
    runningAverage? (before.map (·.2)) = some average ∧
    entry.1 - last.1 ≤ policy.lineGap ∧ distance entry.2 average ≤ policy.tolerance

/-- Scored lines of which each but the first joins those before it. -/
structure IsRun (policy : RegionPolicy S) (run : List (Int × S)) : Prop where
  nonempty : run ≠ []
  joins : ∀ before entry, before ++ [entry] <+: run → before ≠ [] → Joins policy before entry

/-- The scored lines are cut into runs, none of which the first line of the next one joins. -/
structure IsGreedyCut (policy : RegionPolicy S) (lines : List (Int × S))
    (runs : List (List (Int × S))) : Prop where
  complete : runs.flatten = lines
  connected : ∀ run ∈ runs, IsRun policy run
  maximal : runs.IsChain fun run next => ∀ entry ∈ next.head?, ¬Joins policy run entry

section
variable {policy : RegionPolicy S}

theorem isRun_singleton (entry : Int × S) : IsRun policy [entry] where
  nonempty := by simp
  joins := by
    intro before other earlier isLater
    have short := earlier.length_le
    rw [List.length_append, List.length_singleton, List.length_singleton] at short
    exact absurd (List.length_eq_zero_iff.mp (by omega)) isLater

theorem IsRun.concat {run : List (Int × S)} {entry : Int × S} (isRun : IsRun policy run)
    (joins : Joins policy run entry) : IsRun policy (run ++ [entry]) where
  nonempty := by simp
  joins := by
    intro before other earlier isLater
    rcases List.prefix_concat_iff.mp earlier with whole | inside
    · obtain ⟨rfl, same⟩ := List.append_inj' whole rfl
      cases same
      exact joins
    · exact isRun.joins before other inside isLater

namespace IsGreedyCut

variable {lines current more rest : List (Int × S)} {runs : List (List (Int × S))}

theorem tail {run : List (Int × S)} (cut : IsGreedyCut policy lines (run :: runs)) :
    IsGreedyCut policy runs.flatten runs where
  complete := rfl
  connected := fun other member => cut.connected other (List.mem_cons_of_mem _ member)
  maximal := cut.maximal.of_cons

theorem rest_eq (cut : IsGreedyCut policy (current ++ rest) ((current ++ more) :: runs)) :
    more ++ runs.flatten = rest := by
  have complete := cut.complete
  rw [List.flatten_cons, List.append_assoc] at complete
  exact List.append_cancel_left complete

theorem runs_eq_nil (cut : IsGreedyCut policy lines runs) (empty : lines = []) : runs = [] := by
  cases runs with
  | nil => rfl
  | cons run runs =>
    have runEmpty := (List.append_eq_nil_iff.mp (cut.complete.trans empty)).1
    exact absurd runEmpty (cut.connected run (List.mem_cons_self ..)).nonempty

theorem exists_first_run {entry : Int × S} (cut : IsGreedyCut policy (entry :: rest) runs) :
    ∃ after others, runs = ([entry] ++ after) :: others := by
  cases runs with
  | nil => cases cut.complete
  | cons run others =>
    cases run with
    | nil => exact absurd rfl (cut.connected [] (List.mem_cons_self ..)).nonempty
    | cons first after =>
      obtain ⟨rfl, _⟩ := List.cons.inj cut.complete
      exact ⟨after, others, rfl⟩

/-- After an open run a greedy cut has no choice: the next line goes on with the run if it joins
it, and starts a run if not. -/
theorem next {entry : Int × S} (opened : current ≠ [])
    (cut : IsGreedyCut policy (current ++ entry :: rest) ((current ++ more) :: runs)) :
    (Joins policy current entry ∧ ∃ after, more = entry :: after ∧
        IsGreedyCut policy (current ++ [entry] ++ rest) ((current ++ [entry] ++ after) :: runs)) ∨
      (¬Joins policy current entry ∧ more = [] ∧ ∃ after others,
        runs = ([entry] ++ after) :: others ∧
          IsGreedyCut policy ([entry] ++ rest) (([entry] ++ after) :: others)) := by
  have rest_eq := cut.rest_eq
  cases more with
  | cons first after =>
    obtain ⟨rfl, _⟩ := List.cons.inj rest_eq
    refine .inl ⟨?_, after, rfl, by simpa using cut⟩
    exact (cut.connected _ (List.mem_cons_self ..)).joins current first ⟨after, by simp⟩ opened
  | nil =>
    have remaining := cut.tail
    rw [show runs.flatten = entry :: rest from rest_eq] at remaining
    obtain ⟨after, others, rfl⟩ := remaining.exists_first_run
    have parted := (List.isChain_cons_cons.mp cut.maximal).1 entry rfl
    rw [List.append_nil] at parted
    exact .inr ⟨parted, rfl, after, others, rfl, remaining⟩

theorem unique_from {leftMore rightMore : List (Int × S)} {left right : List (List (Int × S))}
    (opened : current ≠ [])
    (leftCut : IsGreedyCut policy (current ++ rest) ((current ++ leftMore) :: left))
    (rightCut : IsGreedyCut policy (current ++ rest) ((current ++ rightMore) :: right)) :
    (current ++ leftMore) :: left = (current ++ rightMore) :: right := by
  -- Both cuts share the open run; the next line extends it in both or closes it in both.
  induction rest generalizing current leftMore rightMore left right with
  | nil =>
    obtain ⟨rfl, leftEmpty⟩ := List.append_eq_nil_iff.mp leftCut.rest_eq
    obtain ⟨rfl, rightEmpty⟩ := List.append_eq_nil_iff.mp rightCut.rest_eq
    rw [leftCut.tail.runs_eq_nil leftEmpty, rightCut.tail.runs_eq_nil rightEmpty]
  | cons entry rest ih =>
    rcases leftCut.next opened with
        ⟨joins, leftAfter, rfl, leftNext⟩ | ⟨apart, rfl, leftAfter, leftOthers, rfl, leftNext⟩ <;>
      rcases rightCut.next opened with
        ⟨rightJoins, rightAfter, rfl, rightNext⟩ |
          ⟨rightApart, rfl, rightAfter, rightOthers, rfl, rightNext⟩
    · simpa using ih (by simp) leftNext rightNext
    · exact absurd joins rightApart
    · exact absurd rightJoins apart
    · rw [ih (List.cons_ne_nil entry []) leftNext rightNext]

theorem unique {left right : List (List (Int × S))} (leftCut : IsGreedyCut policy lines left)
    (rightCut : IsGreedyCut policy lines right) : left = right := by
  cases lines with
  | nil => rw [leftCut.runs_eq_nil rfl, rightCut.runs_eq_nil rfl]
  | cons entry rest =>
    obtain ⟨leftAfter, left, rfl⟩ := leftCut.exists_first_run
    obtain ⟨rightAfter, right, rfl⟩ := rightCut.exists_first_run
    exact unique_from (List.cons_ne_nil entry []) leftCut rightCut

end IsGreedyCut

/-- The run was made of the scored lines. -/
structure Run.Covers (run : Run S) (lines : List (Int × S)) : Prop where
  first : lines.head?.map (·.1) = some run.first
  last : lines.getLast?.map (·.1) = some run.last
  average : runningAverage? (lines.map (·.2)) = some run.average
  size : lines.length = run.size

namespace Run

theorem covers_single (line : Int) (score : S) : (single line score).Covers [(line, score)] :=
  ⟨rfl, rfl, rfl, rfl⟩

theorem Covers.extend {run : Run S} {lines : List (Int × S)} (covers : run.Covers lines)
    (line : Int) (score : S) : (run.extend line score).Covers (lines ++ [(line, score)]) where
  first := by
    obtain ⟨first, isFirst, _⟩ := Option.map_eq_some_iff.mp covers.first
    rw [List.head?_append, isFirst, Option.some_or, ← isFirst]
    exact covers.first
  last := by simp [Run.extend]
  average := by
    rw [List.map_append, List.map_singleton, runningAverage?_concat covers.average,
      List.length_map, covers.size]
    rfl
  size := by
    rw [List.length_append, covers.size]
    rfl

theorem Covers.accepts_iff {run : Run S} {lines : List (Int × S)} (covers : run.Covers lines)
    (line : Int) (score : S) :
    run.accepts policy line score = true ↔ Joins policy lines (line, score) := by
  obtain ⟨last, isLast, lastLine⟩ := Option.map_eq_some_iff.mp covers.last
  simp [accepts, Joins, isLast, covers.average, lastLine]

theorem cutFrom_greedy {run : Run S} {current : List (Int × S)} (covers : run.Covers current)
    (isRun : IsRun policy current) (rest : List (Int × S)) :
    ∃ more runs, IsGreedyCut policy (current ++ rest) ((current ++ more) :: runs) ∧
      List.Forall₂ Covers (cutFrom policy run rest) ((current ++ more) :: runs) := by
  -- The open run stays covered by its lines, so a line is accepted exactly if it joins them.
  induction rest generalizing run current with
  | nil =>
    refine ⟨[], [], ⟨by simp, ?_, .singleton _⟩, by simpa [cutFrom] using covers⟩
    simpa using isRun
  | cons entry rest ih =>
    obtain ⟨line, score⟩ := entry
    by_cases accepted : run.accepts policy line score = true
    · have joins := (covers.accepts_iff line score).mp accepted
      obtain ⟨more, runs, cut, covered⟩ := ih (covers.extend line score) (isRun.concat joins)
      refine ⟨(line, score) :: more, runs, by simpa using cut, ?_⟩
      rw [cutFrom, if_pos accepted]
      simpa using covered
    · have apart := (covers.accepts_iff line score).not.mp accepted
      obtain ⟨more, runs, cut, covered⟩ := ih (covers_single line score) (isRun_singleton _)
      refine ⟨[], ([(line, score)] ++ more) :: runs, ⟨?_, ?_, ?_⟩, ?_⟩
      · rw [List.flatten_cons, cut.complete, List.append_nil, List.singleton_append]
      · intro other member
        rcases List.mem_cons.mp member with rfl | later
        · simpa using isRun
        · exact cut.connected other later
      · refine .cons_cons ?_ cut.maximal
        simpa using apart
      · rw [cutFrom, if_neg accepted, List.append_nil]
        exact .cons covers covered

theorem cut_greedy (policy : RegionPolicy S) (lines : List (Int × S)) :
    ∃ runs, IsGreedyCut policy lines runs ∧ List.Forall₂ Covers (cut policy lines) runs := by
  cases lines with
  | nil => exact ⟨[], ⟨rfl, by simp, .nil⟩, .nil⟩
  | cons entry rest =>
    have isRun : IsRun policy [entry] := isRun_singleton entry
    obtain ⟨more, runs, isCut, covered⟩ := cutFrom_greedy (covers_single entry.1 entry.2) isRun rest
    exact ⟨_, isCut, covered⟩

theorem cutFrom_minSize (size : Int) (run : Run S) (rest : List (Int × S)) :
    cutFrom { policy with minSize := size } run rest = cutFrom policy run rest := by
  induction rest generalizing run with
  | nil => rfl
  | cons entry rest ih =>
    obtain ⟨line, score⟩ := entry
    simp only [cutFrom, ih]
    rfl

theorem cut_minSize (size : Int) (lines : List (Int × S)) :
    cut { policy with minSize := size } lines = cut policy lines := by
  cases lines with
  | nil => rfl
  | cons entry rest => exact cutFrom_minSize size _ rest

end Run

namespace Region

/-- The region has the bounds, the average, the band and the intensity of the run. -/
structure Describes (region : Region S) (run : List (Int × S)) : Prop where
  start : run.head?.map (·.1) = some region.startLine
  stop : run.getLast?.map (·.1) = some region.endLine
  average : runningAverage? (run.map (·.2)) = some region.average
  band : region.band = .ofScore region.average
  intensity : region.intensity = region.band.intensity

/-- The regions are the runs that are long enough, in order. -/
theorem ofScores_describes {lines : Assoc Int S} {runs : List (List (Int × S))}
    (covered : List.Forall₂ Run.Covers (Run.cut policy lines.sortedEntries) runs) :
    List.Forall₂ Describes (ofScores policy lines)
      (runs.filter fun run => policy.minSize ≤ run.length) := by
  have sameSize : ∀ run lines, Run.Covers run lines →
      (run.isRegion policy = true ↔ decide (policy.minSize ≤ lines.length) = true) := by
    intro run lines covers
    simp [Run.isRegion, covers.size]
  rw [ofScores, List.forall₂_map_left_iff]
  exact (List.rel_filter sameSize covered).imp fun run lines covers =>
    ⟨covers.first, covers.last, covers.average, rfl, rfl⟩

theorem Describes.exists_start {region : Region S} {run : List (Int × S)}
    (describes : region.Describes run) : ∃ entry ∈ run, entry.1 = region.startLine := by
  obtain ⟨entry, isFirst, line⟩ := Option.map_eq_some_iff.mp describes.start
  exact ⟨entry, List.mem_of_head? isFirst, line⟩

theorem Describes.exists_end {region : Region S} {run : List (Int × S)}
    (describes : region.Describes run) : ∃ entry ∈ run, entry.1 = region.endLine := by
  obtain ⟨entry, isLast, line⟩ := Option.map_eq_some_iff.mp describes.stop
  exact ⟨entry, List.mem_of_getLast? isLast, line⟩

theorem Describes.start_le_end {region : Region S} {run : List (Int × S)}
    (describes : region.Describes run)
    (ascending : run.Pairwise fun left right => left.1 < right.1) :
    region.startLine ≤ region.endLine := by
  obtain ⟨first, isFirst, firstLine⟩ := Option.map_eq_some_iff.mp describes.start
  obtain ⟨rest, rfl⟩ := List.head?_eq_some_iff.mp isFirst
  obtain ⟨last, member, lastLine⟩ := describes.exists_end
  rcases List.mem_cons.mp member with rfl | later
  · omega
  · have := (List.pairwise_cons.mp ascending).1 last later
    omega

theorem exists_described {regions : List (Region S)} {runs : List (List (Int × S))}
    (described : List.Forall₂ Describes regions runs) {region : Region S}
    (member : region ∈ regions) : ∃ run ∈ runs, region.Describes run := by
  induction described with
  | nil => cases member
  | @cons first run regions runs describes described ih =>
    rcases List.mem_cons.mp member with rfl | later
    · exact ⟨run, List.mem_cons_self .., describes⟩
    · obtain ⟨other, inRuns, otherDescribes⟩ := ih later
      exact ⟨other, List.mem_cons_of_mem _ inRuns, otherDescribes⟩

/-- A region describes a stretch of the scored lines that is long enough for a region. -/
theorem exists_stretch_of_mem {lines : Assoc Int S} {region : Region S}
    (member : region ∈ ofScores policy lines) :
    ∃ earlier run later, lines.sortedEntries = earlier ++ run ++ later ∧
      policy.minSize ≤ run.length ∧ region.Describes run := by
  obtain ⟨runs, isCut, covered⟩ := Run.cut_greedy policy lines.sortedEntries
  obtain ⟨run, inRuns, describes⟩ := exists_described (ofScores_describes covered) member
  obtain ⟨isRun, longEnough⟩ := List.mem_filter.mp inRuns
  obtain ⟨before, after, rfl⟩ := List.append_of_mem isRun
  refine ⟨before.flatten, run, after.flatten, ?_, of_decide_eq_true longEnough, describes⟩
  rw [← isCut.complete, List.flatten_append, List.flatten_cons, List.append_assoc]

theorem exists_run_of_mem {lines : Assoc Int S} {region : Region S}
    (member : region ∈ ofScores policy lines) :
    ∃ run, run.Sublist lines.sortedEntries ∧ policy.minSize ≤ run.length ∧
      region.Describes run := by
  obtain ⟨earlier, run, later, stretch, longEnough, describes⟩ := exists_stretch_of_mem member
  refine ⟨run, ?_, longEnough, describes⟩
  rw [stretch]
  exact (List.sublist_append_right earlier run).trans (List.sublist_append_left _ later)

theorem length_le_of_ascending {α : Type} {run : List (Int × α)} {first last : Int × α}
    (isFirst : run.head? = some first) (isLast : run.getLast? = some last)
    (ascending : run.Pairwise fun left right => left.1 < right.1) :
    (run.length : Int) ≤ last.1 - first.1 + 1 := by
  induction run generalizing first with
  | nil => cases isFirst
  | cons entry rest ih =>
    obtain rfl := Option.some.inj isFirst
    cases rest with
    | nil =>
      obtain rfl := Option.some.inj isLast
      simp
    | cons next rest =>
      obtain ⟨before, restAscending⟩ := List.pairwise_cons.mp ascending
      rw [List.getLast?_cons_cons] at isLast
      have restLength := ih rfl isLast restAscending
      -- Line numbers are integers, so each step up is at least one.
      have step := before next (List.mem_cons_self ..)
      simp only [List.length_cons] at restLength ⊢
      omega

theorem Describes.length_le_lineCount {region : Region S} {run : List (Int × S)}
    (describes : region.Describes run)
    (ascending : run.Pairwise fun left right => left.1 < right.1) :
    (run.length : Int) ≤ region.lineCount := by
  obtain ⟨first, isFirst, firstLine⟩ := Option.map_eq_some_iff.mp describes.start
  obtain ⟨last, isLast, lastLine⟩ := Option.map_eq_some_iff.mp describes.stop
  have spanned := length_le_of_ascending isFirst isLast ascending
  rwa [firstLine, lastLine] at spanned

theorem bounds_of_describes {regions : List (Region S)} {runs : List (List (Int × S))}
    (described : List.Forall₂ Describes regions runs)
    (ascending : runs.flatten.Pairwise fun left right => left.1 < right.1) :
    ∀ region ∈ regions, region.startLine ≤ region.endLine ∧
      (∃ entry ∈ runs.flatten, entry.1 = region.startLine) ∧
      ∃ entry ∈ runs.flatten, entry.1 = region.endLine := by
  induction described with
  | nil => simp
  | @cons first run regions runs describes described ih =>
    rw [List.flatten_cons, List.pairwise_append] at ascending
    obtain ⟨runAscending, restAscending, _⟩ := ascending
    intro region member
    simp only [List.flatten_cons, List.mem_append]
    rcases List.mem_cons.mp member with rfl | later
    · obtain ⟨start, startMember, startLine⟩ := describes.exists_start
      obtain ⟨stop, stopMember, stopLine⟩ := describes.exists_end
      exact ⟨describes.start_le_end runAscending, ⟨start, .inl startMember, startLine⟩,
        stop, .inl stopMember, stopLine⟩
    · obtain ⟨inOrder, ⟨start, startMember, startLine⟩, stop, stopMember, stopLine⟩ :=
        ih restAscending region later
      exact ⟨inOrder, ⟨start, .inr startMember, startLine⟩, stop, .inr stopMember, stopLine⟩

theorem ascending_of_describes {regions : List (Region S)} {runs : List (List (Int × S))}
    (described : List.Forall₂ Describes regions runs)
    (ascending : runs.flatten.Pairwise fun left right => left.1 < right.1) :
    regions.Pairwise fun left right => left.endLine < right.startLine := by
  induction described with
  | nil => exact .nil
  | @cons first run regions runs describes described ih =>
    rw [List.flatten_cons, List.pairwise_append] at ascending
    obtain ⟨_, restAscending, apart⟩ := ascending
    refine .cons ?_ (ih restAscending)
    intro region later
    obtain ⟨stop, stopMember, stopLine⟩ := describes.exists_end
    obtain ⟨_, ⟨start, startMember, startLine⟩, _⟩ :=
      bounds_of_describes described restAscending region later
    rw [← stopLine, ← startLine]
    exact apart stop stopMember start startMember

theorem ofScores_sublist {larger : Int} (atLeast : policy.minSize ≤ larger)
    (lines : Assoc Int S) :
    (ofScores { policy with minSize := larger } lines).Sublist (ofScores policy lines) := by
  rw [ofScores, Run.cut_minSize]
  refine (List.monotone_filter_right _ ?_).map Run.region
  intro run isRegion
  simp only [Run.isRegion, decide_eq_true_eq] at isRegion ⊢
  omega

end Region

end

namespace Region

/-- The ascending scored lines have one greedy cut, and the regions are its runs of at least the
least size. So regions are disjoint and ascending and start and end on scored lines, and a larger
least size only deletes regions. -/
theorem regions_are_greedy_runs (policy : RegionPolicy S) (lines : Assoc Int S) :
    (∀ line score, (line, score) ∈ lines.sortedEntries ↔ lines.get? line = some score) ∧
      (lines.sortedEntries.Pairwise fun left right => left.1 < right.1) ∧
      (∃ runs, IsGreedyCut policy lines.sortedEntries runs ∧
        (∀ others, IsGreedyCut policy lines.sortedEntries others → others = runs) ∧
        List.Forall₂ Describes (ofScores policy lines)
          (runs.filter fun run => policy.minSize ≤ run.length)) ∧
      (∀ other : Assoc Int S, (∀ line, other.get? line = lines.get? line) →
        ofScores policy other = ofScores policy lines) ∧
      ((ofScores policy lines).Pairwise fun left right => left.endLine < right.startLine) ∧
      (∀ region ∈ ofScores policy lines, region.startLine ≤ region.endLine ∧
        region.startLine ∈ lines.keys ∧ region.endLine ∈ lines.keys) ∧
      ∀ larger, policy.minSize ≤ larger →
        (ofScores { policy with minSize := larger } lines).Sublist (ofScores policy lines) := by
  obtain ⟨runs, isCut, covered⟩ := Run.cut_greedy policy lines.sortedEntries
  have described := ofScores_describes covered
  have ascending := lines.sortedEntries_ascending
  -- Runs that are too short are dropped, and what remains is still in order.
  have kept : (runs.filter fun run => policy.minSize ≤ run.length).flatten.Sublist
      lines.sortedEntries := by
    rw [← isCut.complete]
    exact List.filter_sublist.flatten
  have keptAscending := ascending.sublist kept
  refine ⟨fun line score => Assoc.get?_eq_some_iff_mem_sortedEntries.symm, ascending,
    ⟨runs, isCut, fun others otherCut => otherCut.unique isCut, described⟩, ?_,
    ascending_of_describes described keptAscending, ?_,
    fun larger atLeast => ofScores_sublist atLeast lines⟩
  · intro other same
    rw [ofScores, Assoc.sortedEntries_congr same, ← ofScores]
  · intro region member
    obtain ⟨inOrder, ⟨start, startMember, startLine⟩, stop, stopMember, stopLine⟩ :=
      bounds_of_describes described keptAscending region member
    have scored : ∀ entry ∈ lines.sortedEntries, entry.1 ∈ lines.keys := fun entry inside =>
      List.mem_map_of_mem (lines.sortedEntries_perm.mem_iff.mp inside)
    exact ⟨inOrder, startLine ▸ scored start (kept.subset startMember),
      stopLine ▸ scored stop (kept.subset stopMember)⟩

def exactPolicy : RegionPolicy Rat where
  tolerance := 20

def scatteredScores : Assoc Int Rat :=
  ⟨[(9, 10), (1, 90), (5, 20), (2, 80), (4, 85)], by decide⟩

theorem scattered_scores_make_one_region :
    ∃ runs, IsGreedyCut exactPolicy scatteredScores.sortedEntries runs ∧
      List.Forall₂ Describes [⟨1, 4, 85, 1 / 5, .excellent⟩]
        (runs.filter fun run => exactPolicy.minSize ≤ run.length) := by
  have sorted : scatteredScores.sortedEntries = [(1, 90), (2, 80), (4, 85), (5, 20), (9, 10)] := by
    simp [scatteredScores, Assoc.sortedEntries, List.mergeSort]
  have regions : ofScores exactPolicy scatteredScores = [⟨1, 4, 85, 1 / 5, .excellent⟩] := by
    rw [ofScores, sorted]
    decide +kernel
  obtain ⟨_, _, ⟨runs, isCut, _, described⟩, _⟩ :=
    regions_are_greedy_runs exactPolicy scatteredScores
  rw [regions] at described
  exact ⟨runs, isCut, described⟩

end Region

end JavaAudit
