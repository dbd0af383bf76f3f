import JavaAudit.Outline
import JavaAudit.Quality.Issue
import JavaAudit.Quality.Scalar

/-! Quality scores of lines, methods and types, from 0 to 100. -/

set_option autoImplicit false

namespace JavaAudit

def Severity.penalty : Severity → Int
  | .critical => 40
  | .high => 25
  | .medium => 15
  | .low => 5

def IssueSource.penalty : IssueSource → Int
  | .security => 10
  | .optimization => 0

structure Scores (S : Type) where
  lines : Assoc Int S
  methods : Assoc String S
  types : Assoc String S
  deriving DecidableEq, Repr

namespace Score

open Scalar

variable {S : Type} [Scalar S]

def clamp (score : S) : S :=
  let capped := if score < points 100 then score else points 100
  if points 0 < capped then capped else points 0

/-- The mean of some scores; nothing to score is perfect. -/
def average (scores : List S) : S :=
  if scores.isEmpty then points 100 else mean scores

def charge (score : S) (issue : Issue) : S :=
  score - points issue.severity.penalty - points issue.source.penalty

def line (issues : List Issue) (decisions : Int) : S :=
  clamp (issues.foldl charge (points 100) - points (min (2 * decisions) 20))

def lengthPenalty (lineCount : Int) : S :=
  let penalty : S := points 1 / points 2 * points lineCount
  if points 20 < penalty then points 20 else penalty

def method (metrics : MethodMetrics) (lines : Assoc Int S) : S :=
  let own := lines.entries.filter fun entry =>
    metrics.startLine ≤ entry.1 && entry.1 ≤ metrics.endLine
  clamp (average (own.map (·.2)) - points (min (3 * metrics.cyclomatic) 30) -
    lengthPenalty metrics.lineCount)

def type (metrics : TypeMetrics) (methods : Assoc String S) : S :=
  clamp (average (metrics.methodKeys.filterMap methods.get?) -
    points (min (2 * metrics.fieldCount) 20) - points (min metrics.methodCount 15))

/-- Score every line with issues, then every method, then every type. Of methods with one key and
of types with one name the last counts. -/
def all (issues : Assoc Int (List Issue)) (decisions : Assoc Int Int)
    (methods : List MethodMetrics) (types : List TypeMetrics) : Scores S :=
  let lines := issues.sorted.mapValues fun number found =>
    line found ((decisions.get? number).getD 0)
  let methodScores := Assoc.ofList (methods.map fun metrics => (metrics.key, method metrics lines))
  { lines
    methods := methodScores
    types := Assoc.ofList (types.map fun metrics => (metrics.name, type metrics methodScores)) }

def amounts (issues : Assoc Int (List Issue)) (decisions : Assoc Int Int)
    (methods : List MethodMetrics) (types : List TypeMetrics) : List Int :=
  issues.sortedEntries.map (fun entry => min (2 * (decisions.get? entry.1).getD 0) 20) ++
    methods.flatMap (fun metrics => [min (3 * metrics.cyclomatic) 30, metrics.lineCount]) ++
    types.flatMap fun metrics => [min (2 * metrics.fieldCount) 20, min metrics.methodCount 15]

/-- All scores, unless some points are out of the range of the numbers. -/
def all? (issues : Assoc Int (List Issue)) (decisions : Assoc Int Int)
    (methods : List MethodMetrics) (types : List TypeMetrics) : Option (Scores S) :=
  if (amounts issues decisions methods types).all (Scalar.inRange S) then
    some (all issues decisions methods types)
  else none

theorem all_lines_keys {issues : Assoc Int (List Issue)}
    (ascending : issues.keys.Pairwise (· < ·)) (decisions : Assoc Int Int)
    (methods : List MethodMetrics) (types : List TypeMetrics) :
    (all issues decisions methods types : Scores S).lines.keys = issues.keys := by
  simp only [all, Assoc.keys_mapValues, Assoc.sorted_of_ascending ascending]

end Score

end JavaAudit
