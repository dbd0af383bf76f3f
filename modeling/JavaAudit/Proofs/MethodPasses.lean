import Mathlib.Data.List.Basic
import JavaAudit.Analysis
import JavaAudit.Proofs.SampleTrees

/-! The passes over the methods of a unit.

An analysis goes from the metrics of each method to its key and from the key to the method. Main
statement: if the keys are distinct, the findings of a unit are those of its fields and those of
each of its methods in its own context, in document order. -/

set_option autoImplicit false

namespace JavaAudit.Analysis

/-- What rules may ask about a method of a tree: its own type, scope and complexity. -/
def ownContext (tree : Node) (method : Site) : MethodContext :=
  ⟨method, method.ownerName, .ofMethod (Site.root tree).fields method, .ofMethod method⟩

def contexts (tree : Node) : List MethodContext :=
  (MethodIndex.ofMethods tree.methods).metrics.filterMap
    (context? (Site.root tree).fields (.ofMethods tree.methods))

/-- Every key of the metrics is found, so no method is left out. -/
theorem mapM_context? (tree : Node) :
    (MethodIndex.ofMethods tree.methods).metrics.mapM
      (context? (Site.root tree).fields (.ofMethods tree.methods)) = some (contexts tree) := by
  apply mapM_eq_filterMap
  intro metrics member
  have known : metrics.key ∈ MethodIndex.assignedKeys tree.methods :=
    List.mem_map_of_mem member
  obtain ⟨method, found⟩ := MethodIndex.exists_site known
  rw [context?_eq, found]
  rfl

theorem contexts_of_distinct {tree : Node}
    (distinct : (MethodIndex.assignedKeys tree.methods).Nodup) :
    contexts tree = tree.methods.map (ownContext tree) := by
  -- A key that is given once leads back to its method.
  have own : ∀ entry ∈ (MethodIndex.assignedKeys tree.methods).zip tree.methods,
      context? (Site.root tree).fields (.ofMethods tree.methods) (entry.2.metrics entry.1) =
        some (ownContext tree entry.2) := by
    intro entry member
    have found := MethodIndex.get?_sites_of_mem_zip distinct member
    rw [context?_eq, Site.metrics, found]
    rfl
  calc
    contexts tree =
        ((MethodIndex.assignedKeys tree.methods).zip tree.methods).filterMap fun entry =>
          context? (Site.root tree).fields (.ofMethods tree.methods) (entry.2.metrics entry.1) := by
      rw [contexts, MethodIndex.metrics_eq, List.filterMap_map]
      rfl
    _ = ((MethodIndex.assignedKeys tree.methods).zip tree.methods).map fun entry =>
          ownContext tree entry.2 := List.filterMap_eq_map_iff_forall_eq_some.mpr own
    _ = (((MethodIndex.assignedKeys tree.methods).zip tree.methods).map (·.2)).map
          (ownContext tree) := by
      rw [List.map_map]
      rfl
    _ = tree.methods.map (ownContext tree) := by
      rw [List.map_snd_zip (by simp)]

section
variable {S : Type} [Scalar S]

def reportOn (settings : Settings S) (path : String) (tree : Node) (types : List TypeMetrics) :
    Report S :=
  let fields := Security.analyzeFields (.root tree)
  assemble settings path (.root tree) ⟨.ofMethods tree.methods, types⟩ fields
    ((contexts tree).map (analyzeMethod settings.limits (fields.findings.map (·.line))))

/-- Every tree has an outline and contexts, so the analysis of a root gives a report. -/
theorem analyzeRoot_eq (settings : Settings S) (path : String) (tree : Node) :
    analyzeRoot settings path (.root tree) =
      let fields := Security.analyzeFields (.root tree)
      let methods :=
        (contexts tree).map (analyzeMethod settings.limits (fields.findings.map (·.line)))
      let report := reportOn settings path tree (Outline.ofTree tree).types
      ⟨.ok report, progress settings fields methods report⟩ := by
  simp only [analyzeRoot, Outline.ofRoot?_eq]
  have found := mapM_context? tree
  simp only [Outline.ofTree, Outline.methods, found]
  rfl

theorem analyzeRoot_ok (settings : Settings S) (path : String) (tree : Node) :
    (analyzeRoot settings path (.root tree)).result =
      .ok (reportOn settings path tree (Outline.ofTree tree).types) := by
  rw [analyzeRoot_eq]

theorem analyzeRoot_result (settings : Settings S) (path : String) (tree : Node) :
    ∃ types, (analyzeRoot settings path (.root tree)).result =
      .ok (reportOn settings path tree types) :=
  ⟨_, analyzeRoot_ok settings path tree⟩

theorem report_eq_of_analyze_ok {settings : Settings S} {path : String} {tree : Node}
    {report : Report S} (success : (analyze settings path (some tree)).result = .ok report) :
    report = reportOn settings path tree (Outline.ofTree tree).types := by
  simp only [analyze] at success
  split at success
  · cases success
  · split at success
    · cases success
    · exact Except.ok.inj (success.symm.trans (analyzeRoot_ok settings path tree))

theorem report_of_analyze_ok {settings : Settings S} {path : String} {tree : Node}
    {report : Report S} (success : (analyze settings path (some tree)).result = .ok report) :
    ∃ types, report = reportOn settings path tree types :=
  ⟨_, report_eq_of_analyze_ok success⟩

/-- If the keys of the methods are distinct, the findings of a unit are those of its fields and
then those of each method and constructor, once, in document order, in its own context. -/
theorem findings_by_method (settings : Settings S) (path : String) (tree : Node)
    (report : Report S) (success : (analyze settings path (some tree)).result = .ok report)
    (distinct : (report.methods.map (·.key)).Nodup) :
    report.optimizations = tree.methods.flatMap (fun method =>
      (Optimization.analyzeMethod settings.limits (ownContext tree method)).findings) ∧
    report.securityIssues = (Security.analyzeFields (.root tree)).findings ++
      tree.methods.flatMap (fun method =>
        (Security.analyzeMethod (ownContext tree method)
          ((Security.analyzeFields (.root tree)).findings.map (·.line))).findings) ∧
    (∀ site, site ∈ tree.methods ↔ site.IsBelow tree ∧ site.kind.isMethod = true) ∧
    tree.methods.Pairwise fun left right => left.position < right.position := by
  obtain ⟨types, rfl⟩ := report_of_analyze_ok success
  have own : contexts tree = tree.methods.map (ownContext tree) := contexts_of_distinct distinct
  refine ⟨?_, ?_, fun _ => Node.mem_methods, Site.findBelow_ascending _ _⟩
  · simp only [reportOn, assemble, own, List.flatMap_map, List.map_map]
    rfl
  · simp only [reportOn, assemble, own, List.flatMap_map, List.map_map]
    rfl

end

theorem overloads_by_line_analysed :
    ∃ (settings : Settings Rat) (report : Report Rat),
      (analyze settings "A.java" (some overloadsByLine)).result = .ok report ∧
        (report.methods.map (·.key)).Nodup ∧
        report.optimizations.map (fun finding => (finding.category, finding.line)) =
          [(.unusedVariable, 1), (.unusedVariable, 2), (.unusedVariable, 3)] := by
  -- Three overloads on lines of their own are analysed one after another.
  let settings : Settings Rat := { regions := { tolerance := 20 } }
  obtain ⟨types, result⟩ := analyzeRoot_result settings "A.java" overloadsByLine
  have success : (analyze settings "A.java" (some overloadsByLine)).result =
      .ok (reportOn settings "A.java" overloadsByLine types) := result
  have keys : MethodIndex.assignedKeys overloadsByLine.methods = ["f", "f:2", "f:3"] := by decide
  have distinct : (MethodIndex.assignedKeys overloadsByLine.methods).Nodup := by
    rw [keys]
    decide
  obtain ⟨optimizations, _⟩ :=
    findings_by_method settings "A.java" overloadsByLine _ success distinct
  refine ⟨settings, _, success, distinct, ?_⟩
  rw [optimizations]
  decide +kernel

end JavaAudit.Analysis
