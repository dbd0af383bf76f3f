import Mathlib.Data.List.Forall2
import JavaAudit.Quality.Issue

/-! The order of the issues of a line.

Filing puts an issue behind the issues of its own line, and sorting moves whole lines. So the list
of a line holds what was filed on it in the order of filing: the optimizations as they were given,
then the security findings as they were given. -/

set_option autoImplicit false

namespace JavaAudit

/-- The severity that a grade stands for: a severity for itself, a text for the severity that it
names in any letter case, and everything else for the lowest one. -/
inductive Grade.StandsFor : Grade → Severity → Prop where
  | known (severity : Severity) : StandsFor (.known severity) severity
  | named {written : String} {severity : Severity}
      (names : severity.name.toList = Text.upper written.toList) :
      StandsFor (.text written) severity
  | nameless {written : String}
      (unknown : ∀ severity : Severity, severity.name.toList ≠ Text.upper written.toList) :
      StandsFor (.text written) .low
  | unreadable : StandsFor .unreadable .low

theorem Grade.StandsFor.severity_eq {grade : Grade} {severity : Severity}
    (stands : grade.StandsFor severity) : grade.severity = severity := by
  cases stands with
  | known => rfl
  | named names => exact Severity.ofText_of_named names
  | nameless unknown => exact Severity.ofText_of_nameless unknown
  | unreadable => rfl

theorem Grade.standsFor_severity (grade : Grade) : grade.StandsFor grade.severity := by
  cases grade with
  | known severity => exact .known severity
  | unreadable => exact .unreadable
  | text written =>
    by_cases named : ∃ severity : Severity, severity.name.toList = Text.upper written.toList
    · obtain ⟨severity, names⟩ := named
      have same : (Grade.text written).severity = severity := Severity.ofText_of_named names
      rw [same]
      exact .named names
    · have unknown := not_exists.mp named
      have lowest : (Grade.text written).severity = .low := Severity.ofText_of_nameless unknown
      rw [lowest]
      exact .nameless unknown

namespace Issue

/-- The issue says of the concern where it is, what it is and how severe it is. -/
structure TellsOf (source : IssueSource) (concern : Concern) (issue : Issue) : Prop where
  source : issue.source = source
  line : issue.line = concern.line
  description : issue.description = concern.description
  severity : concern.grade.StandsFor issue.severity

theorem tellsOf_iff {source : IssueSource} {concern : Concern} {issue : Issue} :
    TellsOf source concern issue ↔ ofConcern source concern = issue := by
  constructor
  · rintro ⟨rfl, line, description, severity⟩
    rw [ofConcern, ← line, ← description, severity.severity_eq]
  · rintro rfl
    exact ⟨rfl, rfl, rfl, concern.grade.standsFor_severity⟩

theorem forall₂_tellsOf_iff {source : IssueSource} {concerns : List Concern} {issues : List Issue} :
    List.Forall₂ (TellsOf source) concerns issues ↔ issues = concerns.map (ofConcern source) := by
  have asEquation : TellsOf source = fun concern issue => ofConcern source concern = issue := by
    funext concern issue
    exact propext tellsOf_iff
  rw [asEquation, ← List.forall₂_map_left_iff (R := (· = ·)), List.forall₂_eq_eq_eq]
  exact eq_comm

theorem filter_filed (optimizations security : List Concern) (line : Int) :
    (filed optimizations security).filter (·.line == line) =
      (optimizations.filter (·.line == line)).map (ofConcern .optimization) ++
        (security.filter (·.line == line)).map (ofConcern .security) := by
  rw [filed, List.filter_append, List.filter_map, List.filter_map]
  rfl

/-- The lines of a distribution are the lines of the findings, in ascending order. The list of a
line tells of each optimization on the line, in the order given, and then of each security finding
on the line, in the order given. -/
theorem distribution_keeps_order (optimizations security : List Concern) :
    (distribution optimizations security).keys.Pairwise (· < ·) ∧
    (∀ line, line ∈ (distribution optimizations security).keys ↔
      ∃ concern ∈ optimizations ++ security, concern.line = line) ∧
    ∀ line issues, (line, issues) ∈ (distribution optimizations security).entries ↔
      issues ≠ [] ∧ ∃ first second, issues = first ++ second ∧
        List.Forall₂ (TellsOf .optimization) (optimizations.filter (·.line == line)) first ∧
        List.Forall₂ (TellsOf .security) (security.filter (·.line == line)) second := by
  refine ⟨distribution_ascending .., ?_, ?_⟩
  · intro line
    rw [mem_keys_distribution, ← List.mem_append, ← List.map_append, List.mem_map]
  · intro line issues
    have sorted := Assoc.sortedEntries_perm (group (filed optimizations security))
    rw [distribution_eq, Assoc.sorted, sorted.mem_iff, mem_group_iff, filter_filed]
    simp only [forall₂_tellsOf_iff]
    refine and_congr_right fun _ => ?_
    constructor
    · intro same
      exact ⟨_, _, same, rfl, rfl⟩
    · rintro ⟨_, _, same, rfl, rfl⟩
      exact same

end Issue

end JavaAudit
