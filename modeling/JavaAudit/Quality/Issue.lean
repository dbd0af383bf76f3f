import JavaAudit.Assoc
import JavaAudit.Finding

/-! Findings by line.

Filing an issue adds it to the issues of its line and leaves the other lines as they are. So the
lines of a distribution are those of its issues, and its lists together hold each issue once. -/

set_option autoImplicit false

namespace JavaAudit

inductive IssueSource where
  | optimization
  | security
  deriving DecidableEq, Repr

def IssueSource.name : IssueSource → String
  | .optimization => "OPTIMIZATION"
  | .security => "SECURITY"

/-- A severity as it is written down: one of the four, a text, or something that is neither. -/
inductive Grade where
  | known (severity : Severity)
  | text (written : String)
  | unreadable
  deriving DecidableEq, Repr

/-- Whatever does not name a severity counts as low. -/
def Grade.severity : Grade → Severity
  | .known severity => severity
  | .text written => .ofText written
  | .unreadable => .low

structure Concern where
  line : Int
  grade : Grade
  description : String
  deriving DecidableEq, Repr

def Finding.concern {κ : Type} (finding : Finding κ) : Concern :=
  ⟨finding.line, .known finding.severity, finding.description⟩

structure Issue where
  line : Int
  source : IssueSource
  severity : Severity
  description : String
  deriving DecidableEq, Repr

theorem Assoc.replaceIn_flatten_perm {κ α : Type} [DecidableEq κ] {entries : List (κ × List α)}
    {key : κ} {items : List α} (item : α) (found : entries.lookup key = some items) :
    ((replaceIn key (items ++ [item]) entries).map (·.2)).flatten.Perm
      ((entries.map (·.2)).flatten ++ [item]) := by
  induction entries with
  | nil => cases found
  | cons entry rest ih =>
    obtain ⟨entryKey, entryItems⟩ := entry
    rw [lookup_cons_ite] at found
    by_cases same : entryKey = key
    · rw [if_pos same.symm, Option.some.injEq] at found
      subst same found
      -- The new item stands behind its own list, with the later lists still to pass.
      simp only [replaceIn, if_true, List.map_cons, List.flatten_cons, List.append_assoc]
      exact List.perm_append_comm.append_left entryItems
    · rw [if_neg (Ne.symm same)] at found
      simp only [replaceIn, if_neg same, List.map_cons, List.flatten_cons, List.append_assoc]
      exact (ih found).append_left entryItems

namespace Issue

def ofConcern (source : IssueSource) (concern : Concern) : Issue :=
  ⟨concern.line, source, concern.grade.severity, concern.description⟩

def file (byLine : Assoc Int (List Issue)) (issue : Issue) : Assoc Int (List Issue) :=
  byLine.insert issue.line ((byLine.get? issue.line).getD [] ++ [issue])

def group (issues : List Issue) : Assoc Int (List Issue) :=
  issues.foldl file .empty

/-- The issues of each line, by ascending line; on a line the optimizations come first. -/
def distribution (optimizations security : List Concern) : Assoc Int (List Issue) :=
  (group (optimizations.map (ofConcern .optimization) ++
    security.map (ofConcern .security))).sorted

theorem mem_keys_file {byLine : Assoc Int (List Issue)} {issue : Issue} {line : Int} :
    line ∈ (file byLine issue).keys ↔ line = issue.line ∨ line ∈ byLine.keys :=
  Assoc.mem_keys_insert

theorem get?_file (byLine : Assoc Int (List Issue)) (issue : Issue) (line : Int) :
    (file byLine issue).get? line =
      if line = issue.line then some ((byLine.get? line).getD [] ++ [issue])
      else byLine.get? line := by
  rw [file, Assoc.get?_insert]
  split
  case isTrue same => rw [same]
  case isFalse => rfl

theorem values_file_perm (byLine : Assoc Int (List Issue)) (issue : Issue) :
    (file byLine issue).values.flatten.Perm (byLine.values.flatten ++ [issue]) := by
  cases found : byLine.get? issue.line with
  | none =>
    have fresh : ¬byLine.contains issue.line = true := by simp [Assoc.contains, found]
    rw [file, Assoc.values, Assoc.entries_insert_of_not_contains fresh]
    simp [Assoc.values, found]
  | some items =>
    have known : byLine.contains issue.line = true := by simp [Assoc.contains, found]
    rw [file, found, Assoc.values, Assoc.entries_insert_of_contains known]
    exact Assoc.replaceIn_flatten_perm issue found

theorem group_concat (issues : List Issue) (issue : Issue) :
    group (issues ++ [issue]) = file (group issues) issue := by
  simp [group]

theorem mem_keys_foldl_file {issues : List Issue} {byLine : Assoc Int (List Issue)} {line : Int} :
    line ∈ (issues.foldl file byLine).keys ↔ line ∈ issues.map Issue.line ∨ line ∈ byLine.keys := by
  induction issues generalizing byLine with
  | nil => simp
  | cons issue rest ih =>
    rw [List.foldl_cons, ih, mem_keys_file, List.map_cons, List.mem_cons, or_left_comm, or_assoc]

theorem mem_keys_group {issues : List Issue} {line : Int} :
    line ∈ (group issues).keys ↔ line ∈ issues.map Issue.line := by
  rw [group, mem_keys_foldl_file]
  exact or_iff_left List.not_mem_nil

theorem values_foldl_file_perm (issues : List Issue) (byLine : Assoc Int (List Issue)) :
    (issues.foldl file byLine).values.flatten.Perm (byLine.values.flatten ++ issues) := by
  induction issues generalizing byLine with
  | nil => simp
  | cons issue rest ih =>
    rw [List.foldl_cons, List.append_cons]
    exact (ih _).trans ((values_file_perm byLine issue).append_right rest)

theorem group_values_perm (issues : List Issue) : (group issues).values.flatten.Perm issues :=
  values_foldl_file_perm issues .empty

theorem getD_get?_foldl_file (issues : List Issue) (byLine : Assoc Int (List Issue)) (line : Int) :
    ((issues.foldl file byLine).get? line).getD [] =
      (byLine.get? line).getD [] ++ issues.filter (·.line == line) := by
  induction issues generalizing byLine with
  | nil => simp
  | cons issue rest ih =>
    rw [List.foldl_cons, ih, get?_file]
    by_cases same : line = issue.line
    · simp [same]
    · simp [same, Ne.symm same]

theorem getD_get?_group (issues : List Issue) (line : Int) :
    ((group issues).get? line).getD [] = issues.filter (·.line == line) :=
  getD_get?_foldl_file issues .empty line

theorem mem_group_iff {issues items : List Issue} {line : Int} :
    (line, items) ∈ (group issues).entries ↔
      items ≠ [] ∧ items = issues.filter (·.line == line) := by
  have known : (group issues).contains line = true ↔ issues.filter (·.line == line) ≠ [] := by
    rw [Assoc.contains_iff, mem_keys_group, List.mem_map, Ne, List.filter_eq_nil_iff]
    simp
  rw [← Assoc.get?_eq_some_iff_mem, ← getD_get?_group]
  rw [← getD_get?_group, Assoc.contains] at known
  -- Lines are entered with their first issue, so no entry is empty.
  cases found : (group issues).get? line with
  | none => simp +contextual
  | some others =>
    rw [found] at known
    simp only [Option.some.injEq, Option.getD_some]
    constructor
    · rintro rfl
      exact ⟨known.mp rfl, rfl⟩
    · rintro ⟨_, rfl⟩
      rfl

variable (optimizations security : List Concern)

def filed : List Issue :=
  optimizations.map (ofConcern .optimization) ++ security.map (ofConcern .security)

theorem distribution_eq :
    distribution optimizations security = (group (filed optimizations security)).sorted :=
  rfl

theorem distribution_ascending :
    (distribution optimizations security).keys.Pairwise (· < ·) :=
  Assoc.sorted_keys_ascending _

theorem mem_keys_distribution {line : Int} :
    line ∈ (distribution optimizations security).keys ↔
      line ∈ optimizations.map (·.line) ∨ line ∈ security.map (·.line) := by
  have sorted := (Assoc.sortedEntries_perm (group (filed optimizations security))).map (·.1)
  rw [distribution_eq, Assoc.keys, Assoc.sorted, sorted.mem_iff, ← Assoc.keys, mem_keys_group, filed,
    List.map_append, List.map_map, List.map_map, List.mem_append]
  rfl

theorem distribution_values_perm :
    (distribution optimizations security).values.flatten.Perm (filed optimizations security) := by
  have sorted := (Assoc.sortedEntries_perm (group (filed optimizations security))).map (·.2)
  rw [distribution_eq]
  exact sorted.flatten.trans (group_values_perm _)

end Issue

end JavaAudit
