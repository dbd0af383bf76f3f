import JavaAudit.Analysis
import JavaAudit.Presentation.Markup

/-! Reports for the console. -/

set_option autoImplicit false

namespace JavaAudit

/-- What a console shows, as markup that is not laid out. -/
inductive Block where
  | line (markup : String)
  | panel (markup : String)
  | table (title : String) (columns : List String) (rows : List (List String))
  deriving DecidableEq, Repr

/-- A block as lines without style; the cells of a table are separated by tabs. -/
def Block.lines : Block → List String
  | .line markup | .panel markup => [Markup.plain markup]
  | .table title columns rows =>
    title :: (columns :: rows).map fun cells => "\t".intercalate (cells.map Markup.plain)

def Severity.style : Severity → String
  | .critical => "bold red"
  | .high => "red"
  | .medium => "yellow"
  | .low => "cyan"

namespace Block

def error (message : String) : Block :=
  .line ("[red]Error: " ++ message ++ "[/red]")

def score (value : Float) : String :=
  Decimal.fixed 1 value

def lineRange (first last : Int) : String :=
  toString first ++ "-" ++ toString last

variable (escape : String → String)

def findingRow {κ : Type} (categoryName : κ → String) (finding : Finding κ) : List String := [
  toString finding.line,
  "[" ++ finding.severity.style ++ "]" ++ finding.severity.name ++ "[/]",
  categoryName finding.category,
  escape finding.description,
  escape finding.snippet]

def findings {κ : Type} (title : String) (categoryName : κ → String)
    (findings : List (Finding κ)) : List Block :=
  if findings.isEmpty then []
  else
    let sorted := findings.mergeSort fun left right => left.line ≤ right.line
    [.table title ["Line", "Severity", "Type", "Description", "Code"]
      (sorted.map (findingRow escape categoryName))]

def methodRow (scores : Assoc String Float) (metrics : MethodMetrics) : List String := [
  metrics.owner ++ "." ++ metrics.key,
  lineRange metrics.startLine metrics.endLine,
  toString metrics.cyclomatic,
  score ((scores.get? metrics.key).getD 100.0)]

def regionRow (region : Region Float) : List String := [
  lineRange region.startLine region.endLine,
  score region.average,
  region.band.name]

def rows (title : String) (columns : List String) (rows : List (List String)) : List Block :=
  if rows.isEmpty then [] else [.table title columns rows]

def header (report : Report Float) : Block :=
  .panel ("[bold cyan]" ++ escape report.path ++ "[/bold cyan]\nQuality score: " ++
    score report.overallScore ++ "\nIssues: " ++ toString report.issueCount ++ " ([red]" ++
    toString report.criticalCount ++ " critical[/red])")

/-- A whole report; `escape` writes text as markup that shows it as it is. -/
def ofReport (report : Report Float) : List Block :=
  header escape report ::
    findings escape "Optimization Suggestions" Optimization.Category.name report.optimizations ++
    findings escape "Security Issues" Security.Category.name report.securityIssues ++
    rows "Method Quality" ["Method", "Lines", "Complexity", "Score"]
      (report.methods.map (methodRow report.scores.methods)) ++
    rows "Heatmap Regions" ["Lines", "Average", "Band"] (report.regions.map regionRow)

end Block

end JavaAudit
