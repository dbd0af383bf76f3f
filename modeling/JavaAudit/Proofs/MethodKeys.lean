import Mathlib
import JavaAudit.Outline
import JavaAudit.Proofs.SampleTrees

/-! When the keys of methods identify them.

A method is keyed by its name, and by its name and line if the name is taken. The main statement
says for which trees every method has a key of its own: no method may find both keys taken. For
names without a colon that is so unless two methods of one name, neither of them the first, start
on one line. -/

set_option autoImplicit false

namespace JavaAudit

namespace MethodIndex

/-- The keys that methods take: their names, and the qualified names of those whose names were
taken by the methods before them. -/
inductive Taken : List Site → String → Prop where
  | name {methods : List Site} {method : Site} (member : method ∈ methods) :
      Taken methods method.declaredName
  | overload {methods before : List Site} {method : Site}
      (earlier : before ++ [method] <+: methods) (taken : Taken before method.declaredName) :
      Taken methods method.qualifiedName

/-- No method finds both its name and its qualified name taken. -/
def Unambiguous (methods : List Site) : Prop :=
  ∀ before method, before ++ [method] <+: methods →
    Taken before method.declaredName → ¬Taken before method.qualifiedName

/-- No two methods of one name start on one line, the first method of the name aside. -/
def OverloadsApart (methods : List Site) : Prop :=
  ∀ first second third, [first, second, third].Sublist methods →
    second.declaredName = first.declaredName → third.declaredName = first.declaredName →
    second.line ≠ third.line

/-- Each method has a key of its own, by which the index finds the method and its complexity. -/
structure Faithful (index : MethodIndex) (methods : List Site) : Prop where
  complete : index.metrics.length = methods.length
  distinct : (index.metrics.map (·.key)).Nodup
  finds : ∀ (place : Nat) (method : Site) (metrics : MethodMetrics),
    methods[place]? = some method → index.metrics[place]? = some metrics →
      index.sites.get? metrics.key = some method ∧
        index.complexity.get? metrics.key = some (Complexity.ofMethod method)

theorem Taken.mono {methods more : List Site} {key : String} (taken : Taken methods key)
    (earlier : methods <+: more) : Taken more key := by
  cases taken with
  | name member => exact .name (earlier.subset member)
  | overload before taken => exact .overload (before.trans earlier) taken

theorem taken_concat {methods : List Site} {method : Site} {key : String} :
    Taken (methods ++ [method]) key ↔ Taken methods key ∨ key = method.declaredName ∨
      Taken methods method.declaredName ∧ key = method.qualifiedName := by
  constructor
  · intro taken
    cases taken with
    | name member =>
      rcases List.mem_append.mp member with earlier | last
      · exact .inl (.name earlier)
      · exact .inr (.inl (by rw [List.mem_singleton.mp last]))
    | overload before taken =>
      -- The overload is the new method, or one of those before it.
      rcases List.prefix_concat_iff.mp before with whole | earlier
      · obtain ⟨rfl, last⟩ := List.append_inj' whole rfl
        cases last
        exact .inr (.inr ⟨taken, rfl⟩)
      · exact .inl (.overload earlier taken)
  · rintro (taken | rfl | ⟨taken, rfl⟩)
    · exact taken.mono (List.prefix_append ..)
    · exact .name (by simp)
    · exact .overload (List.prefix_refl _) taken

theorem mem_assignedKeys_iff {methods : List Site} {key : String} :
    key ∈ assignedKeys methods ↔ Taken methods key := by
  -- From the end, since the key of a method depends on the methods before it.
  induction methods using List.reverseRecOn generalizing key with
  | nil =>
    constructor
    · intro member
      cases member
    · rintro (⟨⟨⟩⟩ | ⟨before, _⟩)
      simp at before
  | append_singleton methods method ih =>
    rw [assignedKeys_concat, List.mem_append, List.mem_singleton, ih, taken_concat]
    by_cases known : method.declaredName ∈ assignedKeys methods
    · have taken := ih.mp known
      rw [if_pos known]
      constructor
      · rintro (earlier | same)
        · exact .inl earlier
        · exact .inr (.inr ⟨taken, same⟩)
      · rintro (earlier | rfl | ⟨_, same⟩)
        · exact .inl earlier
        · exact .inl taken
        · exact .inr same
    · simp [known, ih.not.mp known]

theorem unambiguous_concat {methods : List Site} {method : Site} :
    Unambiguous (methods ++ [method]) ↔ Unambiguous methods ∧
      (Taken methods method.declaredName → ¬Taken methods method.qualifiedName) := by
  constructor
  · intro unambiguous
    constructor
    · intro before other earlier
      exact unambiguous before other (earlier.trans (List.prefix_append ..))
    · exact unambiguous methods method (List.prefix_refl _)
  · rintro ⟨unambiguous, last⟩ before other earlier
    rcases List.prefix_concat_iff.mp earlier with whole | earlier
    · obtain ⟨rfl, same⟩ := List.append_inj' whole rfl
      cases same
      exact last
    · exact unambiguous before other earlier

theorem assignedKeys_nodup_iff {methods : List Site} :
    (assignedKeys methods).Nodup ↔ Unambiguous methods := by
  induction methods using List.reverseRecOn with
  | nil =>
    refine iff_of_true .nil ?_
    intro before method earlier
    simp at earlier
  | append_singleton methods method ih =>
    rw [unambiguous_concat, ← ih, assignedKeys_concat, ← List.concat_eq_append, List.nodup_concat,
      and_comm]
    refine and_congr_right fun _ => ?_
    by_cases known : method.declaredName ∈ assignedKeys methods <;>
      simp [known, ← mem_assignedKeys_iff]

theorem faithful_iff_nodup {methods : List Site} :
    (ofMethods methods).Faithful methods ↔ (assignedKeys methods).Nodup := by
  constructor
  · exact Faithful.distinct
  · intro distinct
    refine ⟨by simpa [assignedKeys] using assignedKeys_length methods, distinct, ?_⟩
    intro place method metrics isMethod isMetrics
    have isKey : (assignedKeys methods)[place]? = some metrics.key := by
      simp [assignedKeys, isMetrics]
    have found := get?_sites_of_mem_zip distinct
      (List.mem_of_getElem? (List.getElem?_zip_eq_some.mpr ⟨isKey, isMethod⟩))
    exact ⟨found, by rw [get?_complexity, found]; rfl⟩

/-- The name holds no colon, as no identifier does. -/
def IsPlain (method : Site) : Prop :=
  ':' ∉ method.declaredName.toList

theorem toList_qualified (name : String) (line : Nat) :
    (s!"{name}:{line}").toList = name.toList ++ ':' :: (Nat.repr line).toList := by
  simp [toString, String.toList_append]

theorem qualifiedName_toList (method : Site) :
    method.qualifiedName.toList =
      method.declaredName.toList ++ ':' :: (Nat.repr method.line).toList :=
  toList_qualified method.declaredName method.line

theorem append_colon_inj {left right rest other : List Char} (leftPlain : ':' ∉ left)
    (rightPlain : ':' ∉ right) (same : left ++ ':' :: rest = right ++ ':' :: other) :
    left = right ∧ rest = other := by
  induction left generalizing right with
  | nil =>
    cases right with
    | nil => simpa using same
    | cons head tail =>
      obtain ⟨rfl, _⟩ := List.cons.inj same
      simp at rightPlain
  | cons head tail ih =>
    cases right with
    | nil =>
      obtain ⟨rfl, _⟩ := List.cons.inj same
      simp at leftPlain
    | cons otherHead otherTail =>
      obtain ⟨rfl, shorter⟩ := List.cons.inj same
      have tails := ih (fun member => leftPlain (List.mem_cons_of_mem _ member))
        (fun member => rightPlain (List.mem_cons_of_mem _ member)) shorter
      exact ⟨by rw [tails.1], tails.2⟩

theorem qualifiedName_inj {left right : Site} (leftPlain : IsPlain left)
    (rightPlain : IsPlain right) (same : left.qualifiedName = right.qualifiedName) :
    left.declaredName = right.declaredName ∧ left.line = right.line := by
  have lists := congrArg String.toList same
  rw [qualifiedName_toList, qualifiedName_toList] at lists
  obtain ⟨names, lines⟩ := append_colon_inj leftPlain rightPlain lists
  exact ⟨String.toList_injective names, Nat.repr_inj.mp (String.toList_injective lines)⟩

theorem qualifiedName_ne {method other : Site} (plain : IsPlain other) :
    method.qualifiedName ≠ other.declaredName := by
  intro same
  apply plain
  rw [← same, qualifiedName_toList]
  simp

/-- A plain name is taken by the methods of that name only. -/
theorem taken_declaredName_iff {methods : List Site} {method : Site} (plain : IsPlain method) :
    Taken methods method.declaredName ↔
      ∃ other ∈ methods, other.declaredName = method.declaredName := by
  constructor
  · intro taken
    generalize named : method.declaredName = key at taken
    cases taken with
    | name member => exact ⟨_, member, rfl⟩
    | overload => exact absurd named.symm (qualifiedName_ne plain)
  · rintro ⟨other, member, same⟩
    exact same ▸ .name member

/-- A qualified name is taken by an overload of that name and line that is not the first. -/
theorem taken_qualifiedName_iff {methods : List Site} {method : Site}
    (plain : ∀ other ∈ methods, IsPlain other) (methodPlain : IsPlain method) :
    Taken methods method.qualifiedName ↔
      ∃ before other, before ++ [other] <+: methods ∧ Taken before other.declaredName ∧
        other.declaredName = method.declaredName ∧ other.line = method.line := by
  constructor
  · intro taken
    generalize named : method.qualifiedName = key at taken
    cases taken with
    | name member => exact absurd named (qualifiedName_ne (plain _ member))
    | @overload _ before other earlier taken =>
      have otherPlain := plain other (earlier.subset (by simp))
      exact ⟨before, other, earlier, taken, qualifiedName_inj otherPlain methodPlain named.symm⟩
  · rintro ⟨before, other, earlier, taken, sameName, sameLine⟩
    have same : other.qualifiedName = method.qualifiedName := by
      rw [Site.qualifiedName, Site.qualifiedName, sameName, sameLine]
    exact same ▸ .overload earlier taken

theorem concat_sublist_iff {α : Type} {items more : List α} {item : α} :
    (items ++ [item]).Sublist more ↔
      ∃ before, before ++ [item] <+: more ∧ items.Sublist before := by
  constructor
  · intro sublist
    obtain ⟨front, back, rfl, inFront, inBack⟩ := List.append_sublist_iff.mp sublist
    obtain ⟨skipped, rest, rfl⟩ := List.append_of_mem (List.singleton_sublist.mp inBack)
    exact ⟨front ++ skipped, ⟨rest, by simp⟩, inFront.trans (List.sublist_append_left ..)⟩
  · rintro ⟨before, earlier, sublist⟩
    exact (sublist.append_right _).trans earlier.sublist

theorem three_sublist_iff {methods : List Site} {first second third : Site} :
    [first, second, third].Sublist methods ↔
      ∃ before middle, before ++ [third] <+: methods ∧ middle ++ [second] <+: before ∧
        first ∈ middle := by
  have outer : [first, second, third] = [first, second] ++ [third] := rfl
  have inner : [first, second] = [first] ++ [second] := rfl
  simp only [outer, inner, concat_sublist_iff, List.singleton_sublist]
  constructor
  · rintro ⟨before, earlier, middle, inside, member⟩
    exact ⟨before, middle, earlier, inside, member⟩
  · rintro ⟨before, middle, earlier, inside, member⟩
    exact ⟨before, earlier, middle, inside, member⟩

theorem unambiguous_iff_overloadsApart {methods : List Site}
    (plain : ∀ method ∈ methods, IsPlain method) :
    Unambiguous methods ↔ OverloadsApart methods := by
  constructor
  · -- The second method of the name takes the qualified name that the third would need.
    intro unambiguous first second third sublist secondName thirdName sameLine
    obtain ⟨before, middle, earlier, inside, member⟩ := three_sublist_iff.mp sublist
    have inBefore := inside.subset (List.mem_append_left _ member)
    have taken : Taken before third.declaredName := thirdName ▸ .name inBefore
    have secondTaken : Taken middle second.declaredName := secondName ▸ .name member
    have sameKey : second.qualifiedName = third.qualifiedName := by
      rw [Site.qualifiedName, Site.qualifiedName, secondName, thirdName, sameLine]
    exact unambiguous before third earlier taken (sameKey ▸ .overload inside secondTaken)
  · -- Only an overload takes a qualified name, and it found its own name taken by a first method.
    intro apart before third earlier _ qualifiedTaken
    have inMethods : ∀ method ∈ before, method ∈ methods := fun method member =>
      earlier.subset (List.mem_append_left _ member)
    have thirdPlain := plain third (earlier.subset (by simp))
    obtain ⟨middle, second, inside, taken, sameName, sameLine⟩ :=
      (taken_qualifiedName_iff (fun method member => plain method (inMethods method member))
        thirdPlain).mp qualifiedTaken
    have secondPlain := plain second (inMethods second (inside.subset (by simp)))
    obtain ⟨first, member, firstName⟩ := (taken_declaredName_iff secondPlain).mp taken
    exact apart first second third (three_sublist_iff.mpr ⟨before, middle, earlier, inside, member⟩)
      firstName.symm (sameName.symm.trans firstName.symm) sameLine

end MethodIndex

namespace Outline

/-- Every tree has an outline, and its keys identify the methods exactly if no method finds both
its keys taken. For plain names that is exactly if no two methods of one name, the first aside,
start on one line. -/
theorem keys_identify_methods_iff (tree : Node) :
    ∃ outline, ofRoot? (.root tree) = some outline ∧
      (outline.index.Faithful tree.methods ↔ MethodIndex.Unambiguous tree.methods) ∧
      ((∀ method ∈ tree.methods, MethodIndex.IsPlain method) →
        (outline.index.Faithful tree.methods ↔ MethodIndex.OverloadsApart tree.methods)) := by
  obtain ⟨types, found⟩ := exists_ofRoot? tree
  have identified : (MethodIndex.ofMethods tree.methods).Faithful tree.methods ↔
      MethodIndex.Unambiguous tree.methods :=
    MethodIndex.faithful_iff_nodup.trans MethodIndex.assignedKeys_nodup_iff
  refine ⟨_, found, identified, ?_⟩
  intro plain
  exact identified.trans (MethodIndex.unambiguous_iff_overloadsApart plain)

theorem overloads_by_line_identified :
    (∀ method ∈ overloadsByLine.methods, MethodIndex.IsPlain method) ∧
      ∃ outline, ofRoot? (.root overloadsByLine) = some outline ∧
        outline.index.Faithful overloadsByLine.methods := by
  have plain : ∀ method ∈ overloadsByLine.methods, MethodIndex.IsPlain method := by
    unfold MethodIndex.IsPlain
    decide
  have apart : MethodIndex.OverloadsApart overloadsByLine.methods := by
    intro first second third sublist _ _
    have lines : [first.line, second.line, third.line] = [1, 2, 3] :=
      (sublist.map Site.line).eq_of_length rfl
    simp only [List.cons.injEq] at lines
    omega
  obtain ⟨outline, found, _, identified⟩ := keys_identify_methods_iff overloadsByLine
  exact ⟨plain, outline, found, (identified plain).mpr apart⟩

/-- Of three overloads on one line the last two share a key. -/
theorem overloads_on_one_line_collide :
    ∃ outline, ofRoot? (.root overloadsOnOneLine) = some outline ∧
      outline.methods.map (·.key) = ["f", "f:1", "f:1"] ∧
      ¬outline.index.Faithful overloadsOnOneLine.methods := by
  obtain ⟨types, found⟩ := exists_ofRoot? overloadsOnOneLine
  have keys : MethodIndex.assignedKeys overloadsOnOneLine.methods = ["f", "f:1", "f:1"] := by
    decide
  refine ⟨_, found, keys, ?_⟩
  intro faithful
  have distinct := MethodIndex.faithful_iff_nodup.mp faithful
  rw [keys] at distinct
  simp at distinct

end Outline

end JavaAudit
