import JavaAudit.Proofs.Dereferences
import JavaAudit.Proofs.MethodBodies
import JavaAudit.Proofs.Nesting
import JavaAudit.Proofs.ReportConsistency

/-! Where findings stand.

Every rule reports at the line of the node that it inspects, and that node is the declaration under
analysis or stands below it. Main statement: in a tree whose ranges nest, a finding lies on a line
of the method or field declaration that it came from, so the line is scored and its score is among
those that the score of the method averages. -/

set_option autoImplicit false

namespace JavaAudit

namespace Optimization

theorem line_of_mem_analyzeMethod {limits : Limits} {context : MethodContext}
    {finding : Finding Category} (member : finding ∈ (analyzeMethod limits context).findings) :
    finding.line = context.method.line ∨
      ∃ site ∈ context.method.ownScope, finding.line = site.line := by
  simp only [analyzeMethod, Pass.ofApplications, applications, List.flatMap_append,
    List.mem_append] at member
  -- The rules for nodes report below the body, the rules for methods at the method.
  rcases member with ofBody | ofMethod
  · right
    unfold Site.ownScope
    cases body : context.method.body? with
    | none => simp [body] at ofBody
    | some body =>
      rw [body] at ofBody
      obtain ⟨site, inScope, rule, inTable, _, found⟩ := Rule.mem_findings_run.mp ofBody
      obtain ⟨_, reports⟩ := nodeRules_report rule inTable
      exact ⟨site, inScope, (reports.of_mem_apply found).2⟩
  · left
    obtain ⟨application, isApplication, found⟩ := List.mem_flatMap.mp ofMethod
    obtain ⟨rule, inTable, rfl⟩ := List.mem_map.mp isApplication
    obtain ⟨_, reports⟩ := methodRules_report limits rule (List.mem_filter.mp inTable).1
    exact (reports.of_mem_apply found).2

end Optimization

namespace Security

def declarationFindings (declaration : Site) : List (Finding Category) :=
  (fieldApplications declaration).flatMap (·.findings)

theorem analyzeFields_findings (tree : Node) :
    (analyzeFields (.root tree)).findings =
      tree.fieldDeclarations.flatMap declarationFindings := by
  simp only [analyzeFields, Pass.ofApplications, List.flatMap_assoc]
  rfl

theorem line_of_mem_declarationFindings {declaration : Site} {finding : Finding Category}
    (member : finding ∈ declarationFindings declaration) :
    finding.line = declaration.line ∨ ∃ site ∈ declaration.scope, finding.line = site.line := by
  simp only [declarationFindings, fieldApplications, List.flatMap_append, List.mem_append]
    at member
  rcases member with ofDeclaration | ofInitializer
  · left
    obtain ⟨application, isApplication, found⟩ := List.mem_flatMap.mp ofDeclaration
    obtain ⟨rule, inTable, rfl⟩ := List.mem_map.mp isApplication
    exact ((fieldRules_direct rule inTable).of_mem_apply found).2
  · right
    obtain ⟨site, inScope, rule, inTable, _, found⟩ := Rule.mem_findings_run.mp ofInitializer
    exact ⟨site, inScope, ((initializerRules_direct rule inTable).of_mem_apply found).2⟩

theorem line_of_mem_analyzeMethod {context : MethodContext} {flaggedLines : List Int}
    {finding : Finding Category}
    (member : finding ∈ (analyzeMethod context flaggedLines).findings) :
    ∃ site ∈ context.method.ownScope, finding.line = site.line := by
  obtain ⟨body, hasBody, direct | deferred⟩ := mem_analyzeMethod.mp member
  · simpa [Site.ownScope, hasBody] using (of_mem_directFindings direct).2
  · obtain ⟨_, ⟨call, inScope, _, line⟩, _⟩ := of_mem_dereferences deferred
    exact ⟨call, by simpa [Site.ownScope, hasBody] using inScope, line⟩

end Security

theorem Site.mem_below_of_mem_ownScope {method site : Site} (member : site ∈ method.ownScope) :
    site ∈ method.below := by
  unfold ownScope at member
  cases hasBody : method.body? with
  | none => simp [hasBody] at member
  | some body =>
    rw [hasBody] at member
    exact mem_walk_step.mpr
      ⟨body, body_mem_children hasBody, .inr ⟨rfl, mem_below_of_mem_walk member⟩⟩

section
variable {source : Source} {tree : Node}

theorem placed_of_mem_findBelow (placed : tree.Everywhere (Node.IsPlaced source))
    (nested : tree.Nested) {wanted : Kind → Bool} {declaration : Site}
    (member : declaration ∈ (Site.root tree).findBelow wanted) :
    declaration.node.Everywhere (Node.IsPlaced source) ∧ declaration.node.Nested := by
  have inside := (Site.mem_findBelow.mp member).1
  have ofRoot : (Site.root tree).node.Everywhere (Node.IsPlaced source) := placed
  have rootNested : (Site.root tree).node.Nested := nested
  exact ⟨ofRoot.of_mem_walk inside, rootNested.of_mem_walk inside⟩

variable (placed : tree.Everywhere (Node.IsPlaced source)) (nested : tree.Nested)

include placed nested

theorem Optimization.covers_finding {limits : Limits} {context : MethodContext}
    {finding : Finding Category} (isMethod : context.method ∈ tree.methods)
    (member : finding ∈ (analyzeMethod limits context).findings) :
    context.method.Covers finding.line := by
  obtain ⟨methodPlaced, methodNested⟩ := placed_of_mem_findBelow placed nested isMethod
  rcases line_of_mem_analyzeMethod member with line | ⟨site, inScope, line⟩
  · rw [line]
    exact Site.covers_own_line methodPlaced methodNested
  · rw [line]
    exact Site.covers_of_mem_walk methodPlaced methodNested (Site.mem_below_of_mem_ownScope inScope)

theorem Security.covers_finding {context : MethodContext} {flaggedLines : List Int}
    {finding : Finding Category} (isMethod : context.method ∈ tree.methods)
    (member : finding ∈ (analyzeMethod context flaggedLines).findings) :
    context.method.Covers finding.line := by
  obtain ⟨methodPlaced, methodNested⟩ := placed_of_mem_findBelow placed nested isMethod
  obtain ⟨site, inScope, line⟩ := line_of_mem_analyzeMethod member
  rw [line]
  exact Site.covers_of_mem_walk methodPlaced methodNested (Site.mem_below_of_mem_ownScope inScope)

theorem Security.covers_declarationFinding {declaration : Site} {finding : Finding Category}
    (isField : declaration ∈ tree.fieldDeclarations)
    (member : finding ∈ declarationFindings declaration) : declaration.Covers finding.line := by
  obtain ⟨fieldPlaced, fieldNested⟩ := placed_of_mem_findBelow placed nested isField
  rcases line_of_mem_declarationFindings member with line | ⟨site, inScope, line⟩
  · rw [line]
    exact Site.covers_own_line fieldPlaced fieldNested
  · rw [line]
    exact Site.covers_of_mem_walk fieldPlaced fieldNested inScope

end

/-- The lines of a declaration are rows of the text that the tree is read from. -/
theorem Site.inRows_of_covers {text : String} {declaration : Site} {line : Int}
    (placed : declaration.node.IsPlaced (.ofText text)) (covers : declaration.Covers line) :
    1 ≤ line ∧ line ≤ Source.rowCount text := by
  obtain ⟨fromStart, toEnd⟩ := covers
  have first := Source.one_le_lineAt (.ofText text) declaration.node.start
  have last := Source.lineAt_le_rowCount text declaration.node.stop
  rw [Site.line, placed.1] at fromStart
  rw [placed.2] at toEnd
  omega

namespace Score

variable {S : Type} [Scalar S]

/-- The scored lines of a method: those that its score averages. -/
def ownLines (metrics : MethodMetrics) (lines : Assoc Int S) : List (Int × S) :=
  lines.entries.filter fun entry => metrics.startLine ≤ entry.1 && entry.1 ≤ metrics.endLine

theorem method_eq (metrics : MethodMetrics) (lines : Assoc Int S) :
    method metrics lines = clamp (average ((ownLines metrics lines).map (·.2)) -
      Scalar.points (min (3 * metrics.cyclomatic) 30) - lengthPenalty metrics.lineCount) := rfl

omit [Scalar S] in
theorem mem_ownLines_of_covers {method : Site} {key : String} {lines : Assoc Int S} {line : Int}
    (covers : method.Covers line) (scored : line ∈ lines.keys) :
    ∃ score, (line, score) ∈ ownLines (method.metrics key) lines := by
  obtain ⟨⟨_, score⟩, entry, rfl⟩ := List.mem_map.mp scored
  refine ⟨score, List.mem_filter.mpr ⟨entry, ?_⟩⟩
  simp only [Bool.and_eq_true, decide_eq_true_eq]
  exact covers

end Score

namespace Analysis

variable {S : Type} [Scalar S]

def MethodPasses.findingLines (passes : MethodPasses) : List Int :=
  passes.optimization.findings.map (·.line) ++ passes.security.findings.map (·.line)

def passesOn (settings : Settings S) (tree : Node) (context : MethodContext) : MethodPasses :=
  analyzeMethod settings.limits ((fieldFindings tree).map (·.line)) context

/-- A report holds the findings of its fields and methods, on lines of the text. The line of a
finding is scored, and its score is among those that the score of the method averages. -/
structure FindingsScored (settings : Settings S) (text : String) (tree : Node)
    (report : Report S) : Prop where
  optimizations : report.optimizations =
    (contexts tree).flatMap fun context => (passesOn settings tree context).optimization.findings
  securityIssues : report.securityIssues = fieldFindings tree ++
    (contexts tree).flatMap fun context => (passesOn settings tree context).security.findings
  scored : ∀ context ∈ contexts tree, ∃ metrics ∈ report.methods,
    metrics = context.method.metrics metrics.key ∧
    report.scores.methods.get? metrics.key =
      some (Score.clamp (Score.average
        ((Score.ownLines metrics report.scores.lines).map (·.2)) -
          Scalar.points (min (3 * metrics.cyclomatic) 30) -
          Score.lengthPenalty metrics.lineCount)) ∧
    ∀ line ∈ (passesOn settings tree context).findingLines,
      ∃ score, (line, score) ∈ Score.ownLines metrics report.scores.lines
  inRows : ∀ line ∈ report.findingLines, 1 ≤ line ∧ line ≤ Source.rowCount text

theorem exists_key_of_context {tree : Node} {context : MethodContext}
    (member : context ∈ contexts tree) :
    ∃ key, (MethodIndex.ofMethods tree.methods).sites.get? key = some context.method := by
  have found : context.method ∈ (contexts tree).map (·.method) := List.mem_map_of_mem member
  rw [contexts_methods] at found
  obtain ⟨key, _, isMethod⟩ := List.mem_filterMap.mp found
  exact ⟨key, isMethod⟩

theorem get?_method_scores (settings : Settings S) (path : String) (tree : Node)
    (types : List TypeMetrics) (key : String) :
    (reportOn settings path tree types).scores.methods.get? key =
      ((MethodIndex.ofMethods tree.methods).sites.get? key).map fun method =>
        Score.method (method.metrics key) (reportOn settings path tree types).scores.lines := by
  rw [MethodIndex.sites_eq, ← Assoc.get?_ofList_mapKeyed fun key method =>
    Score.method (Site.metrics method key) (reportOn settings path tree types).scores.lines]
  simp only [reportOn, assemble, Score.all, Outline.methods]
  rw [MethodIndex.metrics_eq, List.map_map]
  rfl

section
variable {text : String} {tree : Node} (placed : tree.Everywhere (Node.IsPlaced (.ofText text)))
  (nested : tree.Nested)

include placed nested

omit [Scalar S] in
theorem covers_findingLine {settings : Settings S} {context : MethodContext} {line : Int}
    (isContext : context ∈ contexts tree)
    (member : line ∈ (passesOn settings tree context).findingLines) :
    context.method.Covers line := by
  have isMethod := method_mem_of_context isContext
  rcases List.mem_append.mp member with optimization | security
  · obtain ⟨finding, found, rfl⟩ := List.mem_map.mp optimization
    exact Optimization.covers_finding placed nested isMethod found
  · obtain ⟨finding, found, rfl⟩ := List.mem_map.mp security
    exact Security.covers_finding placed nested isMethod found

/-- Every finding of a report comes from a field declaration or a method, and lies on its lines. -/
theorem exists_declaration_of_mem_findingLines {settings : Settings S} {path : String}
    {types : List TypeMetrics} {line : Int}
    (member : line ∈ (reportOn settings path tree types).findingLines) :
    ∃ wanted, ∃ declaration ∈ (Site.root tree).findBelow wanted, declaration.Covers line := by
  have ofContext : (∃ context ∈ contexts tree,
      line ∈ (passesOn settings tree context).findingLines) →
      ∃ wanted, ∃ declaration ∈ (Site.root tree).findBelow wanted, declaration.Covers line := by
    rintro ⟨context, isContext, found⟩
    exact ⟨_, context.method, method_mem_of_context isContext,
      covers_findingLine placed nested isContext found⟩
  -- Optimizations come from methods only, security findings also from fields.
  rcases List.mem_append.mp member with optimization | security
  · obtain ⟨finding, found, rfl⟩ := List.mem_map.mp optimization
    obtain ⟨passes, isPasses, found⟩ := List.mem_flatMap.mp found
    obtain ⟨context, isContext, rfl⟩ := List.mem_map.mp isPasses
    exact ofContext ⟨context, isContext, List.mem_append_left _ (List.mem_map_of_mem found)⟩
  · obtain ⟨finding, found, rfl⟩ := List.mem_map.mp security
    rcases List.mem_append.mp found with ofField | ofMethod
    · rw [Security.analyzeFields_findings] at ofField
      obtain ⟨declaration, isField, found⟩ := List.mem_flatMap.mp ofField
      exact ⟨_, declaration, isField,
        Security.covers_declarationFinding placed nested isField found⟩
    · obtain ⟨passes, isPasses, found⟩ := List.mem_flatMap.mp ofMethod
      obtain ⟨context, isContext, rfl⟩ := List.mem_map.mp isPasses
      exact ofContext ⟨context, isContext, List.mem_append_right _ (List.mem_map_of_mem found)⟩

theorem findingsScored_of_placed {settings : Settings S} {path : String} {report : Report S}
    (success : (analyze settings path (some tree)).result = .ok report) :
    FindingsScored settings text tree report := by
  have assembled := Report.assembled_of_analyze_ok success
  obtain ⟨types, rfl⟩ := report_of_analyze_ok success
  have optimizations : (reportOn settings path tree types).optimizations =
      (contexts tree).flatMap fun context =>
        (passesOn settings tree context).optimization.findings := by
    simp only [reportOn, assemble, List.flatMap_map]
    rfl
  have securityIssues : (reportOn settings path tree types).securityIssues =
      fieldFindings tree ++ (contexts tree).flatMap fun context =>
        (passesOn settings tree context).security.findings := by
    simp only [reportOn, assemble, List.flatMap_map]
    rfl
  refine ⟨optimizations, securityIssues, ?_, ?_⟩
  · intro context isContext
    -- The context and the score of a key are both those of the method that the key finds.
    obtain ⟨key, isMethod⟩ := exists_key_of_context isContext
    refine ⟨context.method.metrics key, ?_, rfl, ?_, ?_⟩
    · show context.method.metrics key ∈ (MethodIndex.ofMethods tree.methods).metrics
      rw [MethodIndex.metrics_eq]
      exact List.mem_map.mpr ⟨(key, context.method), MethodIndex.mem_zip_of_get?_sites isMethod, rfl⟩
    · have scored := get?_method_scores settings path tree types key
      rw [isMethod, Option.map_some, Score.method_eq] at scored
      exact scored
    · intro line member
      apply Score.mem_ownLines_of_covers (covers_findingLine placed nested isContext member)
      rw [assembled.scored_lines, assembled.mem_issues_keys, Report.findingLines, optimizations,
        securityIssues]
      rcases List.mem_append.mp member with optimization | security
      · obtain ⟨finding, found, rfl⟩ := List.mem_map.mp optimization
        exact List.mem_append_left _
          (List.mem_map_of_mem (List.mem_flatMap.mpr ⟨context, isContext, found⟩))
      · obtain ⟨finding, found, rfl⟩ := List.mem_map.mp security
        exact List.mem_append_right _ (List.mem_map_of_mem
          (List.mem_append_right _ (List.mem_flatMap.mpr ⟨context, isContext, found⟩)))
  · intro line member
    obtain ⟨wanted, declaration, isDeclaration, covers⟩ :=
      exists_declaration_of_mem_findingLines placed nested member
    have declarationPlaced := (placed_of_mem_findBelow placed nested isDeclaration).1
    exact Site.inRows_of_covers declarationPlaced.here covers

end

/-- In a tree with nested ranges, the findings of a method lie on lines of the method and the
findings about a field on lines of its declaration. So they enter the score of their method, and
lie on lines of the text. -/
theorem findings_within_declarations (text : String) (entries : List Entry) (tree : Node)
    (read : Node.ofPreorder? (.ofText text) entries = some tree) (nested : tree.Nested) :
    (∀ (limits : Limits) (context : MethodContext), context.method ∈ tree.methods →
      ∀ finding ∈ (Optimization.analyzeMethod limits context).findings,
        context.method.Covers finding.line) ∧
    (∀ (context : MethodContext) (flaggedLines : List Int), context.method ∈ tree.methods →
      ∀ finding ∈ (Security.analyzeMethod context flaggedLines).findings,
        context.method.Covers finding.line) ∧
    (Security.analyzeFields (.root tree)).findings =
      tree.fieldDeclarations.flatMap Security.declarationFindings ∧
    (∀ declaration ∈ tree.fieldDeclarations,
      ∀ finding ∈ Security.declarationFindings declaration, declaration.Covers finding.line) ∧
    ∀ (settings : Settings S) (path : String) (report : Report S),
      (analyze settings path (some tree)).result = .ok report →
        FindingsScored settings text tree report := by
  have placed := Node.placed_of_ofPreorder? read
  refine ⟨?_, ?_, Security.analyzeFields_findings tree, ?_, ?_⟩
  · intro limits context isMethod finding found
    exact Optimization.covers_finding placed nested isMethod found
  · intro context flaggedLines isMethod finding found
    exact Security.covers_finding placed nested isMethod found
  · intro declaration isField finding found
    exact Security.covers_declarationFinding placed nested isField found
  · intro settings path report success
    exact findingsScored_of_placed placed nested success

/-- The text of a class with a credential on its second line and an unused variable in a method
over three lines. -/
def secretClassText : String :=
  "class A \x7b\n String password = \"hünter22\";\n void f() \x7b\n  int x;\n \x7d\n\x7d"

def secretClassEntries : List Entry :=
  let part := Entry.part
  let token := Entry.token
  let field := [
    part .fieldDeclaration none 11 41 3,
      part (.other "type_identifier") (some .type) 11 17 0,
      part .variableDeclarator (some .declarator) 18 40 3,
        part .identifier (some .name) 18 26 0,
        token "=" 27,
        part .stringLiteral (some .value) 29 40 3,
          token "\"" 29,
          part (.other "string_fragment") none 30 39 0,
          token "\"" 39,
      token ";" 40]
  let statement := [
    part .localVariableDeclaration none 56 62 3,
      part (.other "integral_type") (some .type) 56 59 1,
        token "int" 56,
      part .variableDeclarator (some .declarator) 60 61 1,
        part .identifier (some .name) 60 61 0,
      token ";" 61]
  Entry.soleClass 67 2 (field ++ Entry.voidMethod 43 65 1 statement)

/-- The unused variable on the fourth line enters the score of its method; the field and its literal
are reported on the second. -/
theorem secret_class_scored :
    ∃ (tree : Node) (report : Report Rat),
      Node.ofPreorder? (.ofText secretClassText) secretClassEntries = some tree ∧ tree.Nested ∧
      (analyze Report.exactSettings "A.java" (some tree)).result = .ok report ∧
      report.findingLines = [4, 2, 2] ∧
      FindingsScored Report.exactSettings secretClassText tree report := by
  obtain ⟨tree, read⟩ : ∃ tree,
      Node.ofPreorder? (.ofText secretClassText) secretClassEntries = some tree := by
    rw [← Option.isSome_iff_exists]
    decide +kernel
  have checked : ((Node.ofPreorder? (.ofText secretClassText) secretClassEntries).all fun tree =>
      tree.kind == .program && !tree.typeDeclarations.isEmpty && decide tree.Nested &&
        (reportOn Report.exactSettings "A.java" tree []).findingLines == [4, 2, 2]) = true := by
    decide +kernel
  rw [read] at checked
  simp only [Option.all_some, Bool.and_eq_true, beq_iff_eq, decide_eq_true_eq,
    Bool.not_eq_true'] at checked
  obtain ⟨⟨⟨isProgram, declares⟩, nested⟩, lines⟩ := checked
  obtain ⟨report, success⟩ := exists_report Report.exactSettings "A.java" tree isProgram declares
  have within :=
    findings_within_declarations (S := Rat) secretClassText secretClassEntries tree read nested
  obtain ⟨_, _, _, _, scored⟩ := within
  refine ⟨tree, report, read, nested, success, ?_, scored _ _ report success⟩
  obtain ⟨types, rfl⟩ := report_of_analyze_ok success
  exact lines

end Analysis

end JavaAudit
