import JavaAudit.Proofs.MethodPasses

/-! Which trees can be analysed.

Main statement: an analysis is refused without a tree, for a tree that is no program and for a
program without a type, and it returns a report in every other case, however damaged the tree is.
The depth of recursion is taken as unbounded: a tree of any height is analysed to its end. -/

set_option autoImplicit false

namespace JavaAudit.Analysis

inductive Refusal (path : String) : Option Node → AnalysisError → Prop where
  | noTree : Refusal path none .noTree
  | notProgram {tree : Node} (other : tree.kind ≠ .program) :
      Refusal path (some tree) (.notProgram tree.kind)
  | noType {tree : Node} (isProgram : tree.kind = .program)
      (typeless : ∀ site : Site, site.IsBelow tree → site.kind.isTypeDeclaration = false) :
      Refusal path (some tree) (.noType path)

def DeclaresType (tree : Node) : Prop :=
  ∃ site : Site, site.IsBelow tree ∧ site.kind.isTypeDeclaration = true

theorem declaresType_iff {tree : Node} :
    DeclaresType tree ↔ tree.typeDeclarations.isEmpty = false := by
  rw [List.isEmpty_eq_false_iff_exists_mem]
  simp only [Node.mem_typeDeclarations, DeclaresType]

theorem Refusal.unique {path : String} {tree : Option Node} {first second : AnalysisError}
    (one : Refusal path tree first) (other : Refusal path tree second) : first = second := by
  cases one with
  | noTree => cases other; rfl
  | notProgram notProgram =>
    cases other with
    | notProgram => rfl
    | noType isProgram => exact absurd isProgram notProgram
  | noType isProgram =>
    cases other with
    | notProgram notProgram => exact absurd isProgram notProgram
    | noType => rfl

theorem not_refusal_of_program {path : String} {tree : Node} {error : AnalysisError}
    (isProgram : tree.kind = .program) (declares : DeclaresType tree) :
    ¬Refusal path (some tree) error := by
  intro refused
  cases refused with
  | notProgram other => exact other isProgram
  | noType _ typeless =>
    obtain ⟨site, below, isType⟩ := declares
    rw [typeless site below] at isType
    cases isType

section
variable {S : Type} [Scalar S]

/-- The two ways in which an analysis ends. -/
theorem analyze_cases (settings : Settings S) (path : String) (tree : Option Node) :
    (∃ error, Refusal path tree error ∧ (analyze settings path tree).result = .error error) ∨
      ∃ root report, tree = some root ∧ root.kind = .program ∧ DeclaresType root ∧
        (analyze settings path tree).result = .ok report := by
  cases tree with
  | none => exact .inl ⟨_, .noTree, rfl⟩
  | some root =>
    simp only [analyze, bne_iff_ne]
    split
    next other => exact .inl ⟨_, .notProgram other, rfl⟩
    next notOther =>
      have isProgram : root.kind = .program := not_not.mp notOther
      split
      next empty =>
        have undeclared : ¬DeclaresType root := by
          rw [declaresType_iff, Bool.not_eq_false]
          exact empty
        have typeless : ∀ site : Site, site.IsBelow root →
            site.kind.isTypeDeclaration = false := fun site below =>
          Bool.eq_false_iff.mpr fun isType => undeclared ⟨site, below, isType⟩
        exact .inl ⟨_, .noType isProgram typeless, rfl⟩
      next nonempty =>
        have declares : DeclaresType root := declaresType_iff.mpr (Bool.eq_false_iff.mpr nonempty)
        -- The outline and the contexts of the methods are found in every tree.
        obtain ⟨types, result⟩ := analyzeRoot_result settings path root
        exact .inr ⟨root, _, rfl, isProgram, declares, result⟩

theorem analyze_error_iff (settings : Settings S) (path : String) (tree : Option Node)
    (error : AnalysisError) :
    (analyze settings path tree).result = .error error ↔ Refusal path tree error := by
  obtain ⟨actual, refused, result⟩ | ⟨root, report, rfl, isProgram, declares, result⟩ :=
    analyze_cases settings path tree
  · rw [result]
    constructor
    · rintro ⟨⟩
      exact refused
    · intro other
      rw [refused.unique other]
  · rw [result]
    exact iff_of_false (by simp) (not_refusal_of_program isProgram declares)

theorem analyze_ok_iff (settings : Settings S) (path : String) (tree : Option Node) :
    (∃ report, (analyze settings path tree).result = .ok report) ↔
      ∃ root, tree = some root ∧ root.kind = .program ∧ DeclaresType root := by
  obtain ⟨actual, refused, result⟩ | ⟨root, report, rfl, isProgram, declares, result⟩ :=
    analyze_cases settings path tree
  · rw [result]
    refine iff_of_false (by simp) ?_
    rintro ⟨root, rfl, isProgram, declares⟩
    exact not_refusal_of_program isProgram declares refused
  · exact iff_of_true ⟨report, result⟩ ⟨root, rfl, isProgram, declares⟩

theorem exists_report (settings : Settings S) (path : String) (tree : Node)
    (isProgram : tree.kind = .program) (nonempty : tree.typeDeclarations.isEmpty = false) :
    ∃ report, (analyze settings path (some tree)).result = .ok report :=
  (analyze_ok_iff settings path (some tree)).mpr
    ⟨tree, rfl, isProgram, declaresType_iff.mpr nonempty⟩

/-- An analysis fails with the reason of a refusal and no other error, and returns a report on
every program that declares a type. No lookup in the index of the methods misses: not that of a
member method by its position, nor that of the node and the complexity of a method by its key.
Recursion is taken to go as deep as the tree does, so no height of a tree is a refusal. -/
theorem refused_or_reported (settings : Settings S) (path : String) (tree : Option Node) :
    (∀ error, (analyze settings path tree).result = .error error ↔ Refusal path tree error) ∧
    ((∃ report, (analyze settings path tree).result = .ok report) ↔
      ∃ root, tree = some root ∧ root.kind = .program ∧ DeclaresType root) ∧
    ∀ root : Node,
      (∀ declaration ∈ root.typeDeclarations, ∀ method ∈ declaration.memberMethods,
        ((MethodIndex.ofMethods root.methods).keyOf? method).isSome) ∧
      ∀ metrics ∈ (MethodIndex.ofMethods root.methods).metrics,
        ((MethodIndex.ofMethods root.methods).sites.get? metrics.key).isSome ∧
        ((MethodIndex.ofMethods root.methods).complexity.get? metrics.key).isSome := by
  refine ⟨analyze_error_iff settings path tree, analyze_ok_iff settings path tree, ?_⟩
  intro root
  constructor
  · intro declaration isDeclaration method isMethod
    exact MethodIndex.exists_member_key isDeclaration isMethod
  · intro metrics member
    obtain ⟨method, found⟩ := MethodIndex.exists_site (List.mem_map_of_mem member)
    simp only [MethodIndex.get?_complexity, found, Option.map_some, Option.isSome_some, and_self]

end

end JavaAudit.Analysis
