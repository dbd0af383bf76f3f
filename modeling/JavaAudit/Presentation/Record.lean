import JavaAudit.Analysis
import JavaAudit.Presentation.Document

/-! Reports as documents. -/

set_option autoImplicit false

namespace JavaAudit

open Document (record list text texts integer real truth)

def FieldSummary.document (field : FieldSummary) : Document :=
  record [
    ("name", text field.name),
    ("type", text field.type),
    ("access_modifier", text field.access),
    ("is_static", truth field.isStatic),
    ("is_final", truth field.isFinal)]

def MethodSummary.document (method : MethodSummary) : Document :=
  record [
    ("name", text method.name),
    ("return_type", text method.returnType),
    ("parameters", texts method.parameters),
    ("access_modifier", text method.access),
    ("is_static", truth method.isStatic),
    ("is_abstract", truth method.isAbstract),
    ("is_final", truth method.isFinal)]

def TypeSummary.document (summary : TypeSummary) : Document :=
  record [
    ("class_name", text summary.name),
    ("package_name", text summary.packageName),
    ("fields", list (summary.fields.map (·.document))),
    ("methods", list (summary.methods.map (·.document))),
    ("imports", texts summary.imports),
    ("access_modifier", text summary.access),
    ("is_abstract", truth summary.isAbstract),
    ("is_final", truth summary.isFinal),
    ("is_interface", truth summary.isInterface)]

/-- A finding; the two families of rules name its category and its snippet differently. -/
def Finding.documentAs {κ : Type} (categoryName : κ → String) (snippetKey : String)
    (finding : Finding κ) : Document :=
  record [
    ("type", text (categoryName finding.category)),
    ("description", text finding.description),
    ("line_number", integer finding.line),
    (snippetKey, text finding.snippet),
    ("severity", text finding.severity.name)]

def Optimization.document (finding : Finding Optimization.Category) : Document :=
  finding.documentAs Optimization.Category.name "original_snippet"

def Security.document (finding : Finding Security.Category) : Document :=
  finding.documentAs Security.Category.name "vulnerable_snippet"

def TypeMetrics.document (metrics : TypeMetrics) : Document :=
  record [
    ("class_name", text metrics.name),
    ("start_line", integer metrics.startLine),
    ("method_count", integer metrics.methodCount),
    ("field_count", integer metrics.fieldCount),
    ("method_keys", texts metrics.methodKeys)]

def MethodMetrics.entries (metrics : MethodMetrics) : List (String × Document) := [
  ("key", text metrics.key),
  ("name", text metrics.name),
  ("class_name", text metrics.owner),
  ("start_line", integer metrics.startLine),
  ("end_line", integer metrics.endLine),
  ("parameter_count", integer metrics.parameterCount),
  ("cyclomatic_complexity", integer metrics.cyclomatic)]

def MethodMetrics.document (metrics : MethodMetrics) : Document :=
  record metrics.entries

def Issue.document (issue : Issue) : Document :=
  record [
    ("line_number", integer issue.line),
    ("issue_type", text issue.source.name),
    ("severity", text issue.severity.name),
    ("description", text issue.description)]

def Assoc.byLine {ν : Type} (view : ν → Document) (map : Assoc Int ν) : Document :=
  record (map.entries.map fun entry => (toString entry.1, view entry.2))

def Assoc.byName {ν : Type} (view : ν → Document) (map : Assoc String ν) : Document :=
  record (map.entries.map fun entry => (entry.1, view entry.2))

def Scores.document (scores : Scores Float) : Document :=
  record [
    ("line_scores", scores.lines.byLine real),
    ("method_scores", scores.methods.byName real),
    ("class_scores", scores.types.byName real)]

def Region.entries (region : Region Float) : List (String × Document) := [
  ("start_line", integer region.startLine),
  ("end_line", integer region.endLine),
  ("average_score", real region.average),
  ("intensity", real region.intensity),
  ("band", text region.band.name)]

def Region.document (region : Region Float) : Document :=
  record region.entries

namespace Report

def summaryDocument (report : Report Float) : Document :=
  record [
    ("overall_quality_score", real report.overallScore),
    ("total_issue_count", integer report.issueCount),
    ("critical_issue_count", integer report.criticalCount)]

def document (report : Report Float) : Document :=
  record [
    ("file_path", text report.path),
    ("class_info", (report.summary.map (·.document)).getD .null),
    ("optimizations", list (report.optimizations.map Optimization.document)),
    ("security_issues", list (report.securityIssues.map Security.document)),
    ("class_metrics", list (report.types.map (·.document))),
    ("method_metrics", list (report.methods.map (·.document))),
    ("line_decisions", report.lineDecisions.byLine fun count : Nat => integer count),
    ("issue_distribution", report.issues.byLine fun issues => list (issues.map (·.document))),
    ("scores", report.scores.document),
    ("regions", list (report.regions.map (·.document))),
    ("summary", report.summaryDocument)]

end Report

end JavaAudit
