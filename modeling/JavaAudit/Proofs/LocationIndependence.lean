import JavaAudit.Proofs.DisplacedOutlines
import JavaAudit.Proofs.DisplacedRules
import JavaAudit.Proofs.Refusals

/-! Analysis does not depend on where a unit stands in its file.

Scores and regions depend on lines through their differences only. Main statement: text in front of
a unit moves the lines of its report, and the lines in the keys of its methods, and changes nothing
else. -/

set_option autoImplicit false

namespace JavaAudit

variable (delta : Displacement)

namespace Site

@[simp] theorem fieldSummaries_move (declaration : Site) :
    (declaration.move delta).fieldSummaries = declaration.fieldSummaries := by
  simp [fieldSummaries, Function.comp_def]

@[simp] theorem methodSummary_move (method : Site) :
    (method.move delta).methodSummary = method.methodSummary := by
  simp [methodSummary]

@[simp] theorem qualifiedName?_move (site : Site) :
    (site.move delta).qualifiedName? = site.qualifiedName? := by
  simp [qualifiedName?, List.find?_map, Function.comp_def]

@[simp] theorem importedName?_move (site : Site) :
    (site.move delta).importedName? = site.importedName? := by
  simp [importedName?, Function.comp_def]

@[simp] theorem packageName_move (root : Site) :
    (root.move delta).packageName = root.packageName := by
  simp [packageName, List.filter_map, List.getLast?_map, Option.bind_map, Function.comp_def]

@[simp] theorem imports_move (root : Site) : (root.move delta).imports = root.imports := by
  simp [imports, List.filter_map, List.filterMap_map, Function.comp_def]

@[simp] theorem primaryType?_move (root : Site) :
    (root.move delta).primaryType? = root.primaryType?.map (move delta) := by
  simp [primaryType?, List.find?_map]

@[simp] theorem summary?_move (root : Site) : (root.move delta).summary? = root.summary? := by
  simp [summary?, List.filter_map, List.flatMap_map, Function.comp_def]

end Site

def Issue.move (issue : Issue) : Issue :=
  { issue with line := issue.line + delta.lines }

namespace Issue

theorem file_move (byLine : Assoc Int (List Issue)) (issue : Issue) :
    file (byLine.shift delta.lines (List.map (move delta))) (issue.move delta) =
      (file byLine issue).shift delta.lines (List.map (move delta)) := by
  have found : ((byLine.shift delta.lines (List.map (move delta))).get?
      (issue.move delta).line).getD [] ++ [issue.move delta] =
        ((byLine.get? issue.line).getD [] ++ [issue]).map (move delta) := by
    rw [move, Assoc.get?_shift, ← move]
    cases byLine.get? issue.line <;> simp
  rw [file, found]
  exact Assoc.insert_rename (List.map (move delta)) _ fun line _ =>
    Assoc.distinguishes_add delta.lines _ line

theorem group_move (issues : List Issue) :
    group (issues.map (move delta)) =
      (group issues).shift delta.lines (List.map (move delta)) := by
  induction issues using List.reverseRecOn with
  | nil => rfl
  | append_singleton issues issue ih =>
    rw [List.map_append, List.map_singleton, group_concat, group_concat, ih, file_move]

end Issue

def Concern.move (concern : Concern) : Concern :=
  { concern with line := concern.line + delta.lines }

theorem Issue.distribution_move (optimizations security : List Concern) :
    distribution (optimizations.map (Concern.move delta)) (security.map (Concern.move delta)) =
      (distribution optimizations security).shift delta.lines (List.map (move delta)) := by
  have moved : filed (optimizations.map (Concern.move delta))
      (security.map (Concern.move delta)) =
        (filed optimizations security).map (move delta) := by
    rw [filed, filed, List.map_append, List.map_map, List.map_map, List.map_map, List.map_map]
    rfl
  rw [distribution_eq, distribution_eq, moved, group_move, Assoc.sorted_shift]

section
variable {S : Type} [Scalar S]

def Scores.move (scores : Scores S) : Scores S :=
  { scores with
    lines := scores.lines.shift delta.lines id
    methods := scores.methods.rename (moveKey delta.lines) id }

namespace Score

theorem line_move (issues : List Issue) (decisions : Int) :
    (line (issues.map (Issue.move delta)) decisions : S) = line issues decisions := by
  rw [line, List.foldl_map]
  rfl

theorem method_move (metrics : MethodMetrics) (lines : Assoc Int S) :
    method (metrics.move delta) (lines.shift delta.lines id) = method metrics lines := by
  have own : (lines.shift delta.lines id).entries.filter (fun entry =>
      (metrics.move delta).startLine ≤ entry.1 && entry.1 ≤ (metrics.move delta).endLine) =
        (lines.entries.filter fun entry =>
          metrics.startLine ≤ entry.1 && entry.1 ≤ metrics.endLine).map fun entry =>
            (entry.1 + (delta.lines : Int), entry.2) := by
    simp only [Assoc.entries_shift, List.filter_map, Function.comp_def, MethodMetrics.move,
      Int.add_le_add_iff_right, id]
  have count : (metrics.move delta).lineCount = metrics.lineCount := by
    simp only [MethodMetrics.lineCount, MethodMetrics.move]
    omega
  simp only [method, own, List.map_map, count]
  rfl

theorem type_move {metrics : TypeMetrics} {methods : Assoc String S}
    (ofMethods : ∀ key ∈ methods.keys, IsMethodKey key)
    (ofType : ∀ key ∈ metrics.methodKeys, IsMethodKey key) :
    type (metrics.move delta) (methods.rename (moveKey delta.lines) id) = type metrics methods := by
  have found : (metrics.move delta).methodKeys.filterMap
      (methods.rename (moveKey delta.lines) id).get? =
        metrics.methodKeys.filterMap methods.get? := by
    rw [TypeMetrics.move, List.filterMap_map]
    apply List.filterMap_congr
    intro key member
    rw [Function.comp_apply,
      Assoc.get?_rename id (distinguishes_moveKey ofMethods (ofType key member)),
      Option.map_id_fun, id]
  simp only [type, found]
  rfl

def scoredLines (issues : Assoc Int (List Issue)) (decisions : Assoc Int Int) : Assoc Int S :=
  issues.sorted.mapValues fun number found => line found ((decisions.get? number).getD 0)

def methodScores (methods : List MethodMetrics) (lines : Assoc Int S) : Assoc String S :=
  .ofList (methods.map fun metrics => (metrics.key, method metrics lines))

def typeScores (types : List TypeMetrics) (methods : Assoc String S) : Assoc String S :=
  .ofList (types.map fun metrics => (metrics.name, type metrics methods))

theorem all_eq (issues : Assoc Int (List Issue)) (decisions : Assoc Int Int)
    (methods : List MethodMetrics) (types : List TypeMetrics) :
    (all issues decisions methods types : Scores S) =
      let lines := scoredLines issues decisions
      let scores := methodScores methods lines
      ⟨lines, scores, typeScores types scores⟩ := rfl

theorem scoredLines_move (issues : Assoc Int (List Issue)) (decisions : Assoc Int Int) :
    (scoredLines (issues.shift delta.lines (List.map (Issue.move delta)))
        (decisions.shift delta.lines id) : Assoc Int S) =
      (scoredLines issues decisions).shift delta.lines id := by
  rw [scoredLines, Assoc.sorted_shift]
  apply Assoc.mapValues_shift
  intro number found
  rw [Assoc.get?_shift, Option.map_id_fun, id, id, line_move]

theorem methodScores_move {methods : List MethodMetrics} (lines : Assoc Int S)
    (ofMethods : ∀ metrics ∈ methods, IsMethodKey metrics.key) :
    methodScores (methods.map (MethodMetrics.move delta)) (lines.shift delta.lines id) =
      (methodScores methods lines).rename (moveKey delta.lines) id := by
  have entries : ((methods.map (MethodMetrics.move delta)).map fun metrics =>
      (metrics.key, method metrics (lines.shift delta.lines id))) =
        (methods.map fun metrics => (metrics.key, method metrics lines)).map fun entry =>
          (moveKey delta.lines entry.1, id entry.2) := by
    rw [List.map_map, List.map_map]
    simp only [Function.comp_def, method_move]
    rfl
  have isKey : ∀ key ∈ (methods.map fun metrics => (metrics.key, method metrics lines)).map
      (·.1), IsMethodKey key := by
    simpa [Function.comp_def] using ofMethods
  rw [methodScores, entries]
  exact Assoc.ofList_rename id fun key member => distinguishes_moveKey isKey (isKey key member)

theorem typeScores_move {types : List TypeMetrics} {methods : Assoc String S}
    (ofMethods : ∀ key ∈ methods.keys, IsMethodKey key)
    (ofTypes : ∀ metrics ∈ types, ∀ key ∈ metrics.methodKeys, IsMethodKey key) :
    typeScores (types.map (TypeMetrics.move delta)) (methods.rename (moveKey delta.lines) id) =
      typeScores types methods := by
  rw [typeScores, List.map_map]
  apply congrArg Assoc.ofList
  apply List.map_congr_left
  intro metrics member
  exact congrArg (Prod.mk metrics.name) (type_move delta ofMethods (ofTypes metrics member))

/-- The scores of moved lines and methods are those of the lines and methods. -/
theorem all_move (issues : Assoc Int (List Issue)) (decisions : Assoc Int Int)
    {methods : List MethodMetrics} {types : List TypeMetrics}
    (ofMethods : ∀ metrics ∈ methods, IsMethodKey metrics.key)
    (ofTypes : ∀ metrics ∈ types, ∀ key ∈ metrics.methodKeys, IsMethodKey key) :
    (all (issues.shift delta.lines (List.map (Issue.move delta)))
        (decisions.shift delta.lines id) (methods.map (MethodMetrics.move delta))
        (types.map (TypeMetrics.move delta)) : Scores S) =
      (all issues decisions methods types).move delta := by
  have scoreKeys : ∀ key ∈
      (methodScores methods (scoredLines issues decisions) : Assoc String S).keys,
        IsMethodKey key := by
    intro key member
    rw [methodScores, Assoc.mem_keys_ofList] at member
    obtain ⟨metrics, isMetrics, rfl⟩ := List.mem_map.mp (List.map_map ▸ member)
    exact ofMethods metrics isMetrics
  rw [all_eq, scoredLines_move]
  dsimp only
  rw [methodScores_move delta _ ofMethods, typeScores_move delta scoreKeys ofTypes]
  rfl

end Score

def Run.move (run : Run S) : Run S :=
  { run with first := run.first + delta.lines, last := run.last + delta.lines }

def Region.move (region : Region S) : Region S :=
  { region with
    startLine := region.startLine + delta.lines
    endLine := region.endLine + delta.lines }

namespace Run

theorem accepts_move (policy : RegionPolicy S) (run : Run S) (line : Int) (score : S) :
    (run.move delta).accepts policy (line + delta.lines) score = run.accepts policy line score := by
  have gap : line + (delta.lines : Int) - (run.last + delta.lines) = line - run.last := by omega
  simp only [accepts, move, gap]
  rfl

theorem cutFrom_move (policy : RegionPolicy S) (current : Run S) (lines : List (Int × S)) :
    cutFrom policy (current.move delta)
        (lines.map fun entry => (entry.1 + (delta.lines : Int), entry.2)) =
      (cutFrom policy current lines).map (move delta) := by
  induction lines generalizing current with
  | nil => rfl
  | cons entry rest ih =>
    have joined := ih (current.extend entry.1 entry.2)
    have opened := ih (single entry.1 entry.2)
    rw [List.map_cons, cutFrom, cutFrom, accepts_move]
    -- The run that follows starts with a moved line in either case.
    split
    · exact joined
    · rw [List.map_cons]
      exact congrArg (List.cons _) opened

theorem cut_move (policy : RegionPolicy S) (lines : List (Int × S)) :
    cut policy (lines.map fun entry => (entry.1 + (delta.lines : Int), entry.2)) =
      (cut policy lines).map (move delta) := by
  cases lines with
  | nil => rfl
  | cons entry rest => exact cutFrom_move delta policy (single entry.1 entry.2) rest

end Run

theorem Region.ofScores_move (policy : RegionPolicy S) (lines : Assoc Int S) :
    ofScores policy (lines.shift delta.lines id) =
      (ofScores policy lines).map (move delta) := by
  have runs := Run.cut_move delta policy lines.sortedEntries
  rw [ofScores, Assoc.sortedEntries_shift]
  simp only [id] at runs ⊢
  rw [runs, List.filter_map, List.map_map, ofScores, List.map_map]
  rfl

/-- The report on a moved unit: lines and the lines in the keys of methods are moved. -/
def Report.move (report : Report S) : Report S where
  path := report.path
  summary := report.summary
  optimizations := report.optimizations.map (Finding.move delta)
  securityIssues := report.securityIssues.map (Finding.move delta)
  types := report.types.map (TypeMetrics.move delta)
  methods := report.methods.map (MethodMetrics.move delta)
  lineDecisions := report.lineDecisions.shift delta.lines id
  issues := report.issues.shift delta.lines (List.map (Issue.move delta))
  scores := report.scores.move delta
  regions := report.regions.map (Region.move delta)

theorem Report.totals_move (report : Report S) :
    (report.move delta).overallScore = report.overallScore ∧
      (report.move delta).issueCount = report.issueCount ∧
      (report.move delta).criticalCount = report.criticalCount := by
  refine ⟨?_, ?_, ?_⟩
  · simp [overallScore, move, Scores.move, Assoc.values_shift]
  · simp [issueCount, move]
  · simp [criticalCount, move, List.countP_map, Function.comp_def, Finding.move]

namespace Analysis

variable (settings : Settings S) (path : String) {tree : Node}

theorem distribution_moved {κ μ : Type} (optimizations : List (Finding κ))
    (security : List (Finding μ)) :
    Issue.distribution ((optimizations.map (Finding.move delta)).map (·.concern))
        ((security.map (Finding.move delta)).map (·.concern)) =
      (Issue.distribution (optimizations.map (·.concern)) (security.map (·.concern))).shift
        delta.lines (List.map (Issue.move delta)) := by
  rw [← Issue.distribution_move]
  simp only [List.map_map]
  rfl

theorem assemble_move (root : Site) {outline : Outline}
    {fields movedFields : Pass (Finding Security.Category)} {methods moved : List MethodPasses}
    (ofFields : movedFields.findings = fields.findings.map (Finding.move delta))
    (optimizations : moved.flatMap (·.optimization.findings) =
      (methods.flatMap (·.optimization.findings)).map (Finding.move delta))
    (security : moved.flatMap (·.security.findings) =
      (methods.flatMap (·.security.findings)).map (Finding.move delta))
    (ofComplexity : ∀ key ∈ outline.index.complexity.keys, IsMethodKey key)
    (ofMethods : ∀ metrics ∈ outline.methods, IsMethodKey metrics.key)
    (ofTypes : ∀ metrics ∈ outline.types, ∀ key ∈ metrics.methodKeys, IsMethodKey key) :
    assemble settings path (root.move delta) (outline.move delta) movedFields moved =
      (assemble settings path root outline fields methods).move delta := by
  have lineDecisions := MethodIndex.lineDecisions_move delta ofComplexity
  have decisions : (outline.index.lineDecisions.shift delta.lines id).mapValues
      (fun _ (count : Nat) => (count : Int)) = (outline.index.lineDecisions.mapValues
        fun _ (count : Nat) => (count : Int)).shift delta.lines id :=
    Assoc.mapValues_shift (fun _ _ => rfl) _
  have metrics : (outline.index.move delta).metrics =
      outline.index.metrics.map (MethodMetrics.move delta) := rfl
  have scores := fun issues decisions =>
    Score.all_move (S := S) delta issues decisions ofMethods ofTypes
  have regions := Region.ofScores_move (S := S) delta settings.regions
  -- Issues come from the findings, scores from the issues and regions from the scores.
  simp only [Outline.methods] at scores
  simp only [assemble, Outline.move, Outline.methods, ofFields, optimizations, security,
    ← List.map_append, distribution_moved, lineDecisions, decisions, Site.summary?_move, metrics,
    scores]
  simp only [Scores.move, regions]
  rfl

theorem isMethodKey_of_mem_methodKeys
    (plain : ∀ method ∈ tree.methods, MethodIndex.IsPlain method) :
    ∀ metrics ∈ (Outline.ofTree tree).types, ∀ key ∈ metrics.methodKeys, IsMethodKey key := by
  intro metrics isType key member
  obtain ⟨declaration, _, rfl⟩ := List.mem_map.mp isType
  obtain ⟨method, _, found⟩ := List.mem_filterMap.mp member
  rw [MethodIndex.keyOf?, MethodIndex.keys_eq] at found
  have listed := (List.of_mem_zip (Assoc.mem_of_get?_ofList found)).2
  exact MethodIndex.isMethodKey_of_mem plain key listed

def methodPasses (limits : Limits) (tree : Node) : List MethodPasses :=
  (contexts tree).map
    (analyzeMethod limits ((Security.analyzeFields (.root tree)).findings.map (·.line)))

theorem methodPasses_move (limits : Limits)
    (plain : ∀ method ∈ tree.methods, MethodIndex.IsPlain method) :
    (methodPasses limits (tree.move delta)).flatMap (·.optimization.findings) =
        ((methodPasses limits tree).flatMap (·.optimization.findings)).map (Finding.move delta) ∧
      (methodPasses limits (tree.move delta)).flatMap (·.security.findings) =
        ((methodPasses limits tree).flatMap (·.security.findings)).map (Finding.move delta) := by
  have flagged : (Security.analyzeFields (.root (tree.move delta))).findings.map (·.line) =
      ((Security.analyzeFields (.root tree)).findings.map (·.line)).map (· + (delta.lines : Int)) := by
    rw [← Site.move_root, Security.analyzeFields_move, Security.lines_moved]
  constructor
  · simp only [methodPasses, contexts_move delta plain, List.flatMap_map, List.map_flatMap,
      analyzeMethod, Optimization.analyzeMethod_move]
  · simp only [methodPasses, contexts_move delta plain, flagged, List.flatMap_map,
      List.map_flatMap, analyzeMethod, Security.analyzeMethod_move]

theorem reportOn_move (plain : ∀ method ∈ tree.methods, MethodIndex.IsPlain method) :
    reportOn settings path (tree.move delta) (Outline.ofTree (tree.move delta)).types =
      (reportOn settings path tree (Outline.ofTree tree).types).move delta := by
  have fields := Security.analyzeFields_move delta (.root tree)
  obtain ⟨optimizations, security⟩ := methodPasses_move delta settings.limits plain
  have ofMethods : ∀ metrics ∈ (Outline.ofTree tree).methods, IsMethodKey metrics.key :=
    fun metrics member =>
      MethodIndex.isMethodKey_of_mem plain _ (List.mem_map_of_mem member)
  have assembled := assemble_move delta settings path (.root tree) fields optimizations security
    (MethodIndex.isMethodKey_of_mem_complexity plain) ofMethods (isMethodKey_of_mem_methodKeys plain)
  rw [← Outline.ofTree_move delta plain] at assembled
  exact assembled

theorem analyze_move (tree : Option Node)
    (plain : ∀ root, tree = some root → ∀ method ∈ root.methods, MethodIndex.IsPlain method) :
    (analyze settings path (tree.map (Node.move delta))).result =
      (analyze settings path tree).result.map (Report.move delta) := by
  cases tree with
  | none => rfl
  | some root =>
    have types := Node.typeDeclarations_move delta root
    simp only [Node.typeDeclarations] at types
    simp only [Option.map_some, analyze, Node.kind_move, types, List.isEmpty_map]
    split
    · rfl
    · split
      · rfl
      · rw [analyzeRoot_ok, analyzeRoot_ok, reportOn_move delta settings path (plain root rfl)]
        rfl

/-- Text in front of a unit moves the lines of its report by its line feeds, and with them the lines
in the keys of methods. Everything else stays as it is: what is found and in which order, all
scores, the summary and the totals. -/
theorem report_moves_with_text (before text : String) (entries : List Entry)
    (plain : ∀ tree, Node.ofPreorder? (.ofText text) entries = some tree →
      ∀ method ∈ tree.methods, MethodIndex.IsPlain method) :
    (analyze settings path (Node.ofPreorder? (.ofText (before ++ text))
        (entries.map (Entry.move before.utf8ByteSize)))).result =
      (analyze settings path (Node.ofPreorder? (.ofText text) entries)).result.map
        (Report.move (.past before)) ∧
    ∀ report : Report S,
      (report.move (.past before)).overallScore = report.overallScore ∧
        (report.move (.past before)).issueCount = report.issueCount ∧
        (report.move (.past before)).criticalCount = report.criticalCount := by
  refine ⟨?_, Report.totals_move (.past before)⟩
  rw [Node.ofPreorder?_past]
  exact analyze_move (.past before) settings path _ plain

end Analysis

end

namespace Analysis

def overloadsText : String :=
  "class A \x7b\nvoid f() \x7b\x7d\nvoid f() \x7b\x7d\n\x7d"

def overloadsEntries : List Entry :=
  Entry.soleClass 35 2 (Entry.voidMethod 10 21 0 [] ++ Entry.voidMethod 22 33 0 [])

def keysAndLines (report : Report Rat) : List String × List Int :=
  (report.methods.map (·.key), report.optimizations.map (·.line))

theorem overloads_move_with_text :
    ∃ (settings : Settings Rat) (report : Report Rat) (before : String),
      before = "/* ü\n */\n" ∧
      (analyze settings "A.java" (Node.ofPreorder? (.ofText overloadsText)
        overloadsEntries)).result = .ok report ∧
      keysAndLines report = (["f", "f:3"], [2, 3]) ∧
      (analyze settings "A.java" (Node.ofPreorder? (.ofText (before ++ overloadsText))
        (overloadsEntries.map (Entry.move before.utf8ByteSize)))).result =
          .ok (report.move (.past before)) ∧
      keysAndLines (report.move (.past before)) = (["f", "f:5"], [4, 5]) := by
  -- Behind a comment over two lines, the second method is keyed by a line two further down.
  let settings : Settings Rat := { regions := { tolerance := 20 } }
  let before := "/* ü\n */\n"
  obtain ⟨tree, read⟩ : ∃ tree,
      Node.ofPreorder? (.ofText overloadsText) overloadsEntries = some tree := by
    rw [← Option.isSome_iff_exists]
    decide +kernel
  have checked : ((Node.ofPreorder? (.ofText overloadsText) overloadsEntries).all fun tree =>
      tree.kind == .program && !tree.typeDeclarations.isEmpty &&
        (tree.methods.all fun method => !method.declaredName.toList.contains ':') &&
        keysAndLines (reportOn settings "A.java" tree []) == (["f", "f:3"], [2, 3]) &&
        keysAndLines ((reportOn settings "A.java" tree []).move (.past before)) ==
          (["f", "f:5"], [4, 5])) = true := by
    decide +kernel
  rw [read] at checked
  simp only [Option.all_some, Bool.and_eq_true, beq_iff_eq, List.all_eq_true,
    Bool.not_eq_true'] at checked
  obtain ⟨⟨⟨⟨isProgram, declares⟩, plain⟩, here⟩, moved⟩ := checked
  have allPlain : ∀ tree, Node.ofPreorder? (.ofText overloadsText) overloadsEntries = some tree →
      ∀ method ∈ tree.methods, MethodIndex.IsPlain method := by
    intro other readOther method member
    cases read.symm.trans readOther
    simpa [MethodIndex.IsPlain] using plain method member
  obtain ⟨report, success⟩ := exists_report settings "A.java" tree isProgram declares
  have result := (report_moves_with_text settings "A.java" before overloadsText overloadsEntries
    allPlain).1
  rw [read, success] at result
  refine ⟨settings, report, before, rfl, by rw [read, success], ?_, result, ?_⟩
  · obtain ⟨types, rfl⟩ := report_of_analyze_ok success
    exact here
  · obtain ⟨types, rfl⟩ := report_of_analyze_ok success
    exact moved

end Analysis

end JavaAudit
