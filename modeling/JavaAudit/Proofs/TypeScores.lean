import Mathlib.Data.List.Dedup
import JavaAudit.Proofs.SampleTrees
import JavaAudit.Quality.Score

/-! The scores of types.

Scores of types are kept by simple name, while types are found at every depth. Main statement: each
type has a score of its own exactly if no two types of the unit share their name; of types with one
name the last is scored. -/

set_option autoImplicit false

namespace JavaAudit

theorem Assoc.length_ofList_eq_iff {κ ν : Type} [DecidableEq κ] {entries : List (κ × ν)} :
    (ofList entries).entries.length = entries.length ↔ (entries.map (·.1)).Nodup := by
  have sameKeys : (ofList entries).keys.Perm (entries.map (·.1)).dedup := by
    rw [List.perm_ext_iff_of_nodup (ofList entries).keys_nodup (List.nodup_dedup _)]
    intro key
    rw [mem_keys_ofList, List.mem_dedup]
  have size : (ofList entries).entries.length = (entries.map (·.1)).dedup.length := by
    rw [← sameKeys.length_eq, keys, List.length_map]
  rw [size, ← List.dedup_eq_self]
  constructor
  · intro sameSize
    apply (List.dedup_sublist _).eq_of_length
    rw [sameSize, List.length_map]
  · intro same
    rw [same, List.length_map]

theorem Outline.typeNames_ofTree (tree : Node) :
    (ofTree tree).types.map (·.name) = tree.typeDeclarations.map Site.declaredName := by
  rw [ofTree, List.map_map]
  rfl

namespace Scores

variable {S : Type} [Scalar S]

/-- Every type finds the score of its own metrics under its name. -/
def TypesOwn (scores : Scores S) (types : List TypeMetrics) : Prop :=
  ∀ metrics ∈ types, scores.types.get? metrics.name = some (Score.type metrics scores.methods)

/-- Types of one name have the same score. -/
def NamesakesAgree (scores : Scores S) (types : List TypeMetrics) : Prop :=
  ∀ left ∈ types, ∀ right ∈ types, left.name = right.name →
    Score.type left scores.methods = Score.type right scores.methods

end Scores

namespace Score

variable {S : Type} [Scalar S] (issues : Assoc Int (List Issue)) (decisions : Assoc Int Int)
  (methods : List MethodMetrics)

theorem all_types (types : List TypeMetrics) :
    (all issues decisions methods types : Scores S).types = .ofList (types.map fun metrics =>
      (metrics.name, type metrics (all issues decisions methods types).methods)) := rfl

theorem all_types_of_last {before after : List TypeMetrics} {metrics : TypeMetrics}
    (last : metrics.name ∉ after.map (·.name)) :
    let scores : Scores S := all issues decisions methods (before ++ metrics :: after)
    scores.types.get? metrics.name = some (type metrics scores.methods) := by
  intro scores
  rw [all_types, List.map_append, List.map_cons]
  apply Assoc.get?_ofList_of_last
  rw [List.map_map]
  exact last

theorem types_own_iff_namesakes_agree (types : List TypeMetrics) :
    (all issues decisions methods types : Scores S).TypesOwn types ↔
      (all issues decisions methods types : Scores S).NamesakesAgree types := by
  constructor
  · intro own left isLeft right isRight sameName
    have found := own left isLeft
    rw [sameName, own right isRight] at found
    exact (Option.some.inj found).symm
  · intro agree metrics isType
    rw [all_types]
    -- Whatever is found under the name is the score of a namesake.
    have known : metrics.name ∈ (types.map fun metrics => (metrics.name,
        type metrics (all issues decisions methods types : Scores S).methods)).map (·.1) := by
      rw [List.map_map]
      exact List.mem_map_of_mem isType
    obtain ⟨score, found⟩ :=
      Option.isSome_iff_exists.mp (Assoc.contains_iff.mpr (Assoc.mem_keys_ofList.mpr known))
    obtain ⟨namesake, isNamesake, same⟩ := List.mem_map.mp (Assoc.mem_of_get?_ofList found)
    obtain ⟨sameName, rfl⟩ := Prod.mk.inj same
    rw [found, agree namesake isNamesake metrics isType sameName]

theorem length_types_eq_iff (types : List TypeMetrics) :
    (all issues decisions methods types : Scores S).types.entries.length = types.length ↔
      (types.map (·.name)).Nodup := by
  rw [all_types, ← List.length_map (fun metrics : TypeMetrics => (metrics.name,
    type metrics (all issues decisions methods types : Scores S).methods)),
    Assoc.length_ofList_eq_iff, List.map_map]
  rfl

end Score

namespace Outline

variable {S : Type} [Scalar S]

/-- Every tree has an outline with a type for each declaration. The score under a name is that of
the last type of the name, so each type finds its own score exactly if types of one name agree, and
each has an entry of its own exactly if, besides, no two types share their name. -/
theorem types_scored_own_iff (issues : Assoc Int (List Issue)) (decisions : Assoc Int Int)
    (tree : Node) :
    ∃ outline, ofRoot? (.root tree) = some outline ∧
      outline.types.map (·.name) = tree.typeDeclarations.map Site.declaredName ∧
      let scores : Scores S := Score.all issues decisions outline.methods outline.types
      (∀ before metrics after, outline.types = before ++ metrics :: after →
        metrics.name ∉ after.map (·.name) →
        scores.types.get? metrics.name = some (Score.type metrics scores.methods)) ∧
      (scores.TypesOwn outline.types ↔ scores.NamesakesAgree outline.types) ∧
      (scores.TypesOwn outline.types ∧
          scores.types.entries.length = tree.typeDeclarations.length ↔
        (tree.typeDeclarations.map Site.declaredName).Nodup) := by
  have names := typeNames_ofTree tree
  have size : (ofTree tree).types.length = tree.typeDeclarations.length := by
    simpa using congrArg List.length names
  refine ⟨ofTree tree, ofRoot?_eq tree, names, ?_, ?_, ?_⟩
  · intro before metrics after parts last
    rw [parts]
    exact Score.all_types_of_last issues decisions _ last
  · exact Score.types_own_iff_namesakes_agree issues decisions _ _
  · rw [Score.types_own_iff_namesakes_agree, ← size, Score.length_types_eq_iff, names]
    constructor
    · exact And.right
    · intro distinct
      refine ⟨?_, distinct⟩
      intro left isLeft right isRight sameName
      -- Without namesakes there is nothing to agree on.
      rw [List.inj_on_of_nodup_map (names ▸ distinct) isLeft isRight sameName]

def classNode (source : String) (start stop : Nat) (members : List Node) : Node :=
  let node := Node.ofAscii source
  node .classDeclaration true none start stop [
    .token source "class" start,
    node .identifier true (some .name) (start + 6) (start + 7) [],
    node .classBody true (some .body) (start + 8) stop (
      .token source "\x7b" (start + 8) :: members ++ [.token source "\x7d" (stop - 1)])]

/-- Two classes that each declare a class `C`; only the second has a field. -/
def innerNamesakes : Node :=
  let opening := "\x7b"
  let closing := "\x7d"
  let source := s!"class A {opening} class C {opening} {closing} {closing} " ++
    s!"class B {opening} class C {opening} int x; {closing} {closing}"
  let node := Node.ofAscii source
  let field := node .fieldDeclaration true none 44 50 [
    node (.other "integral_type") true (some .type) 44 47 [.token source "int" 44],
    node .variableDeclarator true (some .declarator) 48 49 [
      node .identifier true (some .name) 48 49 []],
    node .semicolon false none 49 50 []]
  node .program true none 0 54 [
    classNode source 0 23 [classNode source 10 21 []],
    classNode source 24 54 [classNode source 34 52 [field]]]

/-- Both classes `C` are kept under one name, so the first is scored by the field of the second. -/
theorem inner_namesakes_share_score :
    ∃ outline, ofRoot? (.root innerNamesakes) = some outline ∧
      let scores : Scores Rat := Score.all .empty .empty outline.methods outline.types
      ¬scores.TypesOwn outline.types ∧
        scores.types.keys = ["A", "C", "B"] ∧ outline.types.map (·.name) = ["A", "C", "B", "C"] := by
  refine ⟨_, ofRoot?_eq _, ?_, by decide +kernel, by decide +kernel⟩
  rw [Score.types_own_iff_namesakes_agree]
  unfold Scores.NamesakesAgree
  decide +kernel

end Outline

end JavaAudit
