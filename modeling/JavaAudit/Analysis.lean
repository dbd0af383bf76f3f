import JavaAudit.Optimization.RuleSet
import JavaAudit.Quality.Region
import JavaAudit.Quality.Score
import JavaAudit.Security.RuleSet
import JavaAudit.Summary

/-! The analysis of one compilation unit. -/

set_option autoImplicit false

namespace JavaAudit

structure Settings (S : Type) where
  limits : Limits := {}
  regions : RegionPolicy S
  deriving DecidableEq, Repr

structure Report (S : Type) where
  path : String
  summary : Option TypeSummary
  optimizations : List (Finding Optimization.Category)
  securityIssues : List (Finding Security.Category)
  types : List TypeMetrics
  methods : List MethodMetrics
  /-- Decision points by ascending line. -/
  lineDecisions : Assoc Int Nat
  /-- Issues by ascending line. -/
  issues : Assoc Int (List Issue)
  scores : Scores S
  regions : List (Region S)
  deriving DecidableEq, Repr

namespace Report

variable {S : Type} [Scalar S]

/-- The mean line score; a unit without findings is perfect. -/
def overallScore (report : Report S) : S :=
  Score.average report.scores.lines.values

def issueCount (report : Report S) : Nat :=
  report.optimizations.length + report.securityIssues.length

def criticalCount (report : Report S) : Nat :=
  report.optimizations.countP (·.severity == .critical) +
    report.securityIssues.countP (·.severity == .critical)

end Report

inductive AnalysisError where
  | noTree
  | notProgram (kind : Kind)
  | noType (path : String)
  /-- A method is missing from the index of the methods of its unit. -/
  | unindexedMethod
  deriving DecidableEq, Repr

def AnalysisError.message : AnalysisError → String
  | .noTree => "No syntax tree to analyze"
  | .notProgram kind => "Expected a Java program, got " ++ kind.name
  | .noType path => s!"No type declaration found in {path}"
  | .unindexedMethod => "Method without an index entry"

namespace Analysis

variable {S : Type} [Scalar S]

def context? (fields : List TypedName) (index : MethodIndex) (metrics : MethodMetrics) :
    Option MethodContext := do
  let method ← index.sites.get? metrics.key
  let complexity ← index.complexity.get? metrics.key
  some ⟨method, metrics.owner, Scope.ofMethod fields method, complexity⟩

structure MethodPasses where
  optimization : Pass (Finding Optimization.Category)
  security : Pass (Finding Security.Category)
  deriving DecidableEq, Repr

/-- Analyse a method; `flaggedLines` are the lines of findings about fields. -/
def analyzeMethod (limits : Limits) (flaggedLines : List Int) (context : MethodContext) :
    MethodPasses :=
  ⟨Optimization.analyzeMethod limits context, Security.analyzeMethod context flaggedLines⟩

structure Outcome (S : Type) where
  result : Except AnalysisError (Report S)
  events : List Event

def assemble (settings : Settings S) (path : String) (root : Site) (outline : Outline)
    (fields : Pass (Finding Security.Category)) (methods : List MethodPasses) : Report S :=
  let optimizations := methods.flatMap (·.optimization.findings)
  let securityIssues := fields.findings ++ methods.flatMap (·.security.findings)
  let lineDecisions := outline.index.lineDecisions
  let issues := Issue.distribution (optimizations.map (·.concern))
    (securityIssues.map (·.concern))
  let decisions := lineDecisions.mapValues fun _ (count : Nat) => (count : Int)
  let scores := Score.all issues decisions outline.methods outline.types
  { path
    summary := root.summary?
    optimizations
    securityIssues
    types := outline.types
    methods := outline.methods
    lineDecisions
    issues
    scores
    regions := Region.ofScores settings.regions scores.lines }

/-- The events of a finished analysis, in order. -/
def progress (settings : Settings S) (fields : Pass (Finding Security.Category))
    (methods : List MethodPasses) (report : Report S) : List Event :=
  [.analyzing report.path, .extracted report.types.length report.methods.length] ++
    fields.events ++
    methods.flatMap (fun passes => passes.optimization.events ++ passes.security.events) ++
    Region.dropped settings.regions report.scores.lines ++
    [.analyzed report.path report.optimizations.length report.securityIssues.length
      report.regions.length]

def analyzeRoot (settings : Settings S) (path : String) (root : Site) : Outcome S :=
  match Outline.ofRoot? root with
  | none => ⟨.error .unindexedMethod, []⟩
  | some outline =>
    match outline.methods.mapM (context? root.fields outline.index) with
    | none => ⟨.error .unindexedMethod, []⟩
    | some contexts =>
      let fields := Security.analyzeFields root
      let methods := contexts.map
        (analyzeMethod settings.limits (fields.findings.map (·.line)))
      let report := assemble settings path root outline fields methods
      ⟨.ok report, progress settings fields methods report⟩

/-- Analyse a syntax tree. There is nothing to analyse without a tree, in a tree that is no
program, and in a program without a type. -/
def analyze (settings : Settings S) (path : String) (tree : Option Node) : Outcome S :=
  match tree with
  | none => ⟨.error .noTree, []⟩
  | some tree =>
    let root := Site.root tree
    if tree.kind != .program then ⟨.error (.notProgram tree.kind), []⟩
    else if (root.findBelow Kind.isTypeDeclaration).isEmpty then ⟨.error (.noType path), []⟩
    else analyzeRoot settings path root

def parseEvents (path : String) (tree : Node) : List Event :=
  if tree.hasError then [.parseErrors path] else []

def analyzeParsed (settings : Settings S) (path : String) (tree : Node) : Outcome S :=
  let outcome := analyze settings path (some tree)
  { outcome with events := parseEvents path tree ++ outcome.events }

theorem context?_eq (fields : List TypedName) (methods : List Site) (metrics : MethodMetrics) :
    context? fields (.ofMethods methods) metrics =
      ((MethodIndex.ofMethods methods).sites.get? metrics.key).map fun method =>
        ⟨method, metrics.owner, .ofMethod fields method, .ofMethod method⟩ := by
  simp only [context?, MethodIndex.get?_complexity]
  cases (MethodIndex.ofMethods methods).sites.get? metrics.key <;> rfl

end Analysis

end JavaAudit
