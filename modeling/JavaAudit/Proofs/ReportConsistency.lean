import JavaAudit.Proofs.MethodPasses
import JavaAudit.Proofs.ScoreRange

/-! How the parts of a report fit together.

A report keeps its findings three times: as lists, by line, and as scores and regions of lines.
Main statement: in exact arithmetic the three agree on the lines and on the number of findings,
and every score is between 0 and 100. -/

set_option autoImplicit false

namespace JavaAudit

namespace Score

variable {S : Type} [Scalar S]

end Score

namespace Report

def findingLines {S : Type} (report : Report S) : List Int :=
  report.optimizations.map (·.line) ++ report.securityIssues.map (·.line)

/-- The report puts its issues, scores and regions together from its findings and metrics. -/
structure Assembled {S : Type} [Scalar S] (settings : Settings S) (report : Report S) :
    Prop where
  issues : report.issues = Issue.distribution (report.optimizations.map (·.concern))
    (report.securityIssues.map (·.concern))
  scores : ∃ decisions,
    report.scores = Score.all report.issues decisions report.methods report.types
  regions : report.regions = Region.ofScores settings.regions report.scores.lines

theorem assembled_of_analyze_ok {S : Type} [Scalar S] {settings : Settings S} {path : String}
    {tree : Node} {report : Report S}
    (success : (Analysis.analyze settings path (some tree)).result = .ok report) :
    report.Assembled settings := by
  obtain ⟨types, rfl⟩ := Analysis.report_of_analyze_ok success
  exact ⟨rfl, ⟨_, rfl⟩, rfl⟩

namespace Assembled

section
variable {S : Type} [Scalar S] {settings : Settings S} {report : Report S}

theorem issues_ascending (assembled : report.Assembled settings) :
    report.issues.keys.Pairwise (· < ·) := by
  rw [assembled.issues]
  exact Issue.distribution_ascending _ _

theorem mem_issues_keys (assembled : report.Assembled settings) {line : Int} :
    line ∈ report.issues.keys ↔ line ∈ report.findingLines := by
  rw [assembled.issues, Issue.mem_keys_distribution, findingLines, List.mem_append, List.map_map,
    List.map_map]
  rfl

theorem scored_lines (assembled : report.Assembled settings) :
    report.scores.lines.keys = report.issues.keys := by
  obtain ⟨decisions, scores⟩ := assembled.scores
  rw [scores, Score.all_lines_keys assembled.issues_ascending]

/-- The issues by line are the findings, each once. -/
theorem issues_perm (assembled : report.Assembled settings) :
    report.issues.values.flatten.Perm
      (Issue.filed (report.optimizations.map (·.concern))
        (report.securityIssues.map (·.concern))) := by
  rw [assembled.issues]
  exact Issue.distribution_values_perm _ _

theorem issue_count (assembled : report.Assembled settings) :
    report.issues.values.flatten.length = report.issueCount := by
  rw [assembled.issues_perm.length_eq, issueCount, Issue.filed]
  simp

theorem critical_count (assembled : report.Assembled settings) :
    report.issues.values.flatten.countP (·.severity == .critical) = report.criticalCount := by
  rw [assembled.issues_perm.countP_eq, criticalCount, Issue.filed, List.countP_append,
    List.map_map, List.map_map, List.countP_map, List.countP_map]
  rfl

theorem region_on_lines (assembled : report.Assembled settings) {region : Region S}
    (member : region ∈ report.regions) :
    region.startLine ∈ report.scores.lines.keys ∧ region.endLine ∈ report.scores.lines.keys ∧
      settings.regions.minSize ≤ region.lineCount := by
  have ascending : report.scores.lines.keys.Pairwise (· < ·) := by
    rw [assembled.scored_lines]
    exact assembled.issues_ascending
  rw [assembled.regions] at member
  obtain ⟨run, sublist, longEnough, describes⟩ := Region.exists_run_of_mem member
  rw [Assoc.sortedEntries_of_ascending ascending] at sublist
  have scored : ∀ entry ∈ run, entry.1 ∈ report.scores.lines.keys := fun entry inRun =>
    List.mem_map_of_mem (sublist.subset inRun)
  obtain ⟨first, isFirst, firstLine⟩ := describes.exists_start
  obtain ⟨last, isLast, lastLine⟩ := describes.exists_end
  have spanned :=
    describes.length_le_lineCount ((List.pairwise_map.mp ascending).sublist sublist)
  exact ⟨firstLine ▸ scored first isFirst, lastLine ▸ scored last isLast,
    longEnough.trans spanned⟩

end

variable {settings : Settings Rat} {report : Report Rat}

theorem line_scores_inRange (assembled : report.Assembled settings) :
    ∀ score ∈ report.scores.lines.values, Score.InRange score := by
  obtain ⟨decisions, scores⟩ := assembled.scores
  rw [scores]
  exact Score.lines_inRange _ _ _ _

end Assembled

/-- The findings by line, the scores and the regions of a report are about the lines and the
number of its findings, and all its scores are in the range. -/
structure Consistent (settings : Settings Rat) (report : Report Rat) : Prop where
  ascending : report.issues.keys.Pairwise (· < ·)
  scoredLines : report.scores.lines.keys = report.issues.keys
  issueLines : ∀ line, line ∈ report.issues.keys ↔ line ∈ report.findingLines
  lineScores : ∀ score ∈ report.scores.lines.values, Score.InRange score
  methodScores : ∀ score ∈ report.scores.methods.values, Score.InRange score
  typeScores : ∀ score ∈ report.scores.types.values, Score.InRange score
  overallScore : Score.InRange report.overallScore
  regionScores : ∀ region ∈ report.regions, Score.InRange region.average
  issueCount : report.issues.values.flatten.length = report.issueCount
  criticalCount :
    report.issues.values.flatten.countP (·.severity == .critical) = report.criticalCount
  regionLines : ∀ region ∈ report.regions,
    region.startLine ∈ report.scores.lines.keys ∧ region.endLine ∈ report.scores.lines.keys ∧
      settings.regions.minSize ≤ region.lineCount

/-- Every finished analysis gives a consistent report. -/
theorem analysis_consistent (settings : Settings Rat) (path : String) (tree : Node)
    (report : Report Rat)
    (success : (Analysis.analyze settings path (some tree)).result = .ok report) :
    report.Consistent settings := by
  have assembled := assembled_of_analyze_ok success
  obtain ⟨decisions, scores⟩ := assembled.scores
  have lineScores := assembled.line_scores_inRange
  exact {
    ascending := assembled.issues_ascending
    scoredLines := assembled.scored_lines
    issueLines := fun _ => assembled.mem_issues_keys
    lineScores := lineScores
    methodScores := by
      rw [scores]
      exact Score.methods_inRange _ _ _ _
    typeScores := by
      rw [scores]
      exact Score.types_inRange _ _ _ _
    overallScore := Score.average_inRange lineScores
    regionScores := by
      intro region member
      rw [assembled.regions] at member
      exact Region.average_inRange lineScores member
    issueCount := assembled.issue_count
    criticalCount := assembled.critical_count
    regionLines := fun _ => assembled.region_on_lines }

def exactSettings : Settings Rat where
  regions := Region.exactPolicy

theorem overloads_by_line_consistent :
    ∃ report, (Analysis.analyze exactSettings "A.java" (some overloadsByLine)).result =
        .ok report ∧
      report.findingLines = [1, 2, 3] ∧ report.Consistent exactSettings := by
  obtain ⟨types, result⟩ := Analysis.analyzeRoot_result exactSettings "A.java" overloadsByLine
  have success : (Analysis.analyze exactSettings "A.java" (some overloadsByLine)).result =
      .ok (Analysis.reportOn exactSettings "A.java" overloadsByLine types) := result
  -- The findings do not depend on the metrics of the types.
  have lines : (Analysis.reportOn exactSettings "A.java" overloadsByLine []).findingLines =
      [1, 2, 3] := by
    decide +kernel
  exact ⟨_, success, lines, analysis_consistent _ _ _ _ success⟩

end Report

end JavaAudit
