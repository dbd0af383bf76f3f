import JavaAudit.Proofs.DisplacedContexts
import JavaAudit.Proofs.MethodKeys
import JavaAudit.Proofs.MethodPasses

/-! Outlines of moved trees.

A key that holds a line is moved with its method. Moved keys stay apart if the names of methods hold
no colon, so the index of a moved unit is the index of the unit with its keys and lines moved. -/

set_option autoImplicit false

namespace JavaAudit

/-- Move the line that a key holds behind its first colon. -/
def moveKey (lines : Nat) (key : String) : String :=
  match key.toList.dropWhile (· != ':') with
  | [] => key
  | _ :: line =>
    let name := String.ofList (key.toList.takeWhile (· != ':'))
    s!"{name}:{Nat.ofDigitChars 10 line 0 + lines}"

/-- The key is a name without a colon, or such a name and a line. -/
def IsMethodKey (key : String) : Prop :=
  ∃ name : String, ':' ∉ name.toList ∧ (key = name ∨ ∃ line : Nat, key = s!"{name}:{line}")

theorem bne_colon_of_mem {name : String} (plain : ':' ∉ name.toList) :
    ∀ char ∈ name.toList, (char != ':') = true := by
  intro char member
  rw [bne_iff_ne]
  rintro rfl
  exact plain member

theorem moveKey_plain (lines : Nat) {name : String} (plain : ':' ∉ name.toList) :
    moveKey lines name = name := by
  have rest : name.toList.dropWhile (· != ':') = [] :=
    List.dropWhile_eq_nil_iff.mpr (bne_colon_of_mem plain)
  rw [moveKey, rest]

theorem moveKey_qualified (lines : Nat) {name : String} (plain : ':' ∉ name.toList) (line : Nat) :
    moveKey lines s!"{name}:{line}" = s!"{name}:{line + lines}" := by
  have inName := bne_colon_of_mem plain
  have rest : (s!"{name}:{line}").toList.dropWhile (· != ':') = ':' :: Nat.toDigits 10 line := by
    rw [MethodIndex.toList_qualified, List.dropWhile_append_of_pos inName]
    simp
  have front : (s!"{name}:{line}").toList.takeWhile (· != ':') = name.toList := by
    rw [MethodIndex.toList_qualified, List.takeWhile_append_of_pos inName]
    simp
  rw [moveKey, rest, front]
  simp [Nat.ofDigitChars_toDigits]

theorem moveKey_inj {lines : Nat} {left right : String} (leftKey : IsMethodKey left)
    (rightKey : IsMethodKey right) (same : moveKey lines left = moveKey lines right) :
    left = right := by
  obtain ⟨name, plain, rfl | ⟨line, rfl⟩⟩ := leftKey <;>
    obtain ⟨other, otherPlain, rfl | ⟨otherLine, rfl⟩⟩ := rightKey
  -- A moved name is the name, so it has no colon, while a moved line stays behind one.
  · rwa [moveKey_plain lines plain, moveKey_plain lines otherPlain] at same
  · rw [moveKey_plain lines plain, moveKey_qualified lines otherPlain] at same
    rw [same, MethodIndex.toList_qualified] at plain
    simp at plain
  · rw [moveKey_qualified lines plain, moveKey_plain lines otherPlain] at same
    rw [← same, MethodIndex.toList_qualified] at otherPlain
    simp at otherPlain
  · rw [moveKey_qualified lines plain, moveKey_qualified lines otherPlain] at same
    have lists := congrArg String.toList same
    rw [MethodIndex.toList_qualified, MethodIndex.toList_qualified] at lists
    obtain ⟨names, repr⟩ := MethodIndex.append_colon_inj plain otherPlain lists
    have lineSame := Nat.repr_inj.mp (String.toList_injective repr)
    rw [String.toList_injective names, Nat.add_right_cancel lineSame]

theorem distinguishes_moveKey {lines : Nat} {keys : List String} {key : String}
    (ofList : ∀ other ∈ keys, IsMethodKey other) (isKey : IsMethodKey key) :
    Assoc.Distinguishes (moveKey lines) keys key :=
  fun other member same => moveKey_inj (ofList other member) isKey same

namespace MethodIndex

theorem isMethodKey_of_mem {methods : List Site} (plain : ∀ method ∈ methods, IsPlain method) :
    ∀ key ∈ assignedKeys methods, IsMethodKey key := by
  intro key member
  cases mem_assignedKeys_iff.mp member with
  | name isMethod => exact ⟨_, plain _ isMethod, .inl rfl⟩
  | overload earlier _ => exact ⟨_, plain _ (earlier.subset (by simp)), .inr ⟨_, rfl⟩⟩

theorem isMethodKey_of_mem_complexity {methods : List Site}
    (plain : ∀ method ∈ methods, IsPlain method) :
    ∀ key ∈ (ofMethods methods).complexity.keys, IsMethodKey key := by
  intro key member
  rw [complexity_eq, Assoc.mem_keys_ofList, List.map_fst_zip (by simp)] at member
  exact isMethodKey_of_mem plain key member

variable (delta : Displacement)

theorem assignedKeys_move {methods : List Site} (plain : ∀ method ∈ methods, IsPlain method) :
    assignedKeys (methods.map (Site.move delta)) =
      (assignedKeys methods).map (moveKey delta.lines) := by
  induction methods using List.reverseRecOn with
  | nil => rfl
  | append_singleton methods method ih =>
    have earlier : ∀ other ∈ methods, IsPlain other := fun other member =>
      plain other (List.mem_append_left _ member)
    have methodPlain : IsPlain method := plain method (by simp)
    have steady : moveKey delta.lines method.declaredName = method.declaredName :=
      moveKey_plain delta.lines methodPlain
    -- A name is a key of the moved methods exactly if it is a key of the methods.
    have taken : method.declaredName ∈ (assignedKeys methods).map (moveKey delta.lines) ↔
        method.declaredName ∈ assignedKeys methods := by
      constructor
      · intro member
        obtain ⟨key, isKey, same⟩ := List.mem_map.mp member
        rw [← steady] at same
        rwa [← moveKey_inj (isMethodKey_of_mem earlier key isKey)
          ⟨_, methodPlain, .inl rfl⟩ same]
      · intro member
        exact List.mem_map.mpr ⟨_, member, steady⟩
    rw [List.map_append, List.map_singleton, assignedKeys_concat, ih earlier, assignedKeys_concat,
      Site.declaredName_move, List.map_append, List.map_singleton]
    congr 2
    by_cases known : method.declaredName ∈ assignedKeys methods
    · rw [if_pos (taken.mpr known), if_pos known, Site.qualifiedName, Site.qualifiedName,
        moveKey_qualified delta.lines methodPlain, Site.declaredName_move, Site.line_move]
    · rw [if_neg (mt taken.mp known), if_neg known, steady]

end MethodIndex

section
variable (delta : Displacement)

def MethodMetrics.move (metrics : MethodMetrics) : MethodMetrics :=
  { metrics with
    key := moveKey delta.lines metrics.key
    startLine := metrics.startLine + delta.lines
    endLine := metrics.endLine + delta.lines }

def TypeMetrics.move (metrics : TypeMetrics) : TypeMetrics :=
  { metrics with
    startLine := metrics.startLine + delta.lines
    methodKeys := metrics.methodKeys.map (moveKey delta.lines) }

theorem Site.ownerName_move (method : Site) :
    (method.move delta).ownerName = method.ownerName := by
  simp [ownerName, Function.comp_def]

theorem Site.metrics_move (method : Site) (key : String) :
    (method.move delta).metrics (moveKey delta.lines key) = (method.metrics key).move delta := by
  simp [metrics, MethodMetrics.move, ownerName_move, Complexity.move]

theorem Site.memberMethods_move (declaration : Site) :
    (declaration.move delta).memberMethods = declaration.memberMethods.map (move delta) := by
  simp [memberMethods, List.filter_map, Function.comp_def]

theorem Node.methods_move (tree : Node) :
    (tree.move delta).methods = tree.methods.map (Site.move delta) := by
  rw [methods, ← Site.move_root, Site.findBelow_move, methods]

theorem Node.typeDeclarations_move (tree : Node) :
    (tree.move delta).typeDeclarations = tree.typeDeclarations.map (Site.move delta) := by
  rw [typeDeclarations, ← Site.move_root, Site.findBelow_move, typeDeclarations]

end

namespace MethodIndex

variable (delta : Displacement)

def moveRange (range : Nat × Nat) : Nat × Nat :=
  (range.1 + delta.bytes, range.2 + delta.bytes)

def move (index : MethodIndex) : MethodIndex where
  metrics := index.metrics.map (MethodMetrics.move delta)
  sites := index.sites.rename (moveKey delta.lines) (Site.move delta)
  complexity := index.complexity.rename (moveKey delta.lines) (Complexity.move delta)
  keys := index.keys.rename (moveRange delta) (moveKey delta.lines)

theorem distinguishes_moveRange (ranges : List (Nat × Nat)) (range : Nat × Nat) :
    Assoc.Distinguishes (moveRange delta) ranges range := by
  intro other _ same
  simp only [moveRange, Prod.mk.injEq, Nat.add_right_cancel_iff] at same
  exact Prod.ext same.1 same.2

theorem range_move (method : Site) : (method.move delta).range = moveRange delta method.range := by
  simp [Site.range, moveRange]

section
variable {methods : List Site} (plain : ∀ method ∈ methods, IsPlain method)

include plain

theorem metrics_move :
    (ofMethods (methods.map (Site.move delta))).metrics =
      (ofMethods methods).metrics.map (MethodMetrics.move delta) := by
  rw [metrics_eq, metrics_eq, assignedKeys_move delta plain, List.zip_map, List.map_map,
    List.map_map]
  apply List.map_congr_left
  intro entry _
  exact Site.metrics_move delta entry.2 entry.1

theorem ofList_zip_move {α : Type} (transform : α → α) {values : List α}
    (length : values.length = methods.length) :
    Assoc.ofList ((assignedKeys (methods.map (Site.move delta))).zip (values.map transform)) =
      (Assoc.ofList ((assignedKeys methods).zip values)).rename (moveKey delta.lines)
        transform := by
  rw [assignedKeys_move delta plain, List.zip_map]
  apply Assoc.ofList_rename
  intro key member
  rw [List.map_fst_zip (by simp [length])] at member ⊢
  exact distinguishes_moveKey (isMethodKey_of_mem plain) (isMethodKey_of_mem plain key member)

theorem keys_move :
    (ofMethods (methods.map (Site.move delta))).keys =
      (ofMethods methods).keys.rename (moveRange delta) (moveKey delta.lines) := by
  have ranges : (methods.map (Site.move delta)).map Site.range =
      (methods.map Site.range).map (moveRange delta) := by
    simp [range_move, Function.comp_def]
  rw [keys_eq, keys_eq, assignedKeys_move delta plain, ranges, List.zip_map]
  exact Assoc.ofList_rename (moveKey delta.lines) fun range _ =>
    distinguishes_moveRange delta _ range

/-- The moved methods are given the moved keys, by which the index finds them. -/
theorem ofMethods_move :
    ofMethods (methods.map (Site.move delta)) = (ofMethods methods).move delta := by
  have sites : (ofMethods (methods.map (Site.move delta))).sites =
      (ofMethods methods).sites.rename (moveKey delta.lines) (Site.move delta) := by
    rw [sites_eq, sites_eq, ofList_zip_move delta plain (Site.move delta) rfl]
  have complexity : (ofMethods (methods.map (Site.move delta))).complexity =
      (ofMethods methods).complexity.rename (moveKey delta.lines) (Complexity.move delta) := by
    have moved : (methods.map (Site.move delta)).map Complexity.ofMethod =
        (methods.map Complexity.ofMethod).map (Complexity.move delta) := by
      simp [Function.comp_def]
    rw [complexity_eq, complexity_eq, moved,
      ofList_zip_move delta plain (Complexity.move delta) (by simp)]
  rw [move, ← metrics_move delta plain, ← sites, ← complexity, ← keys_move delta plain]

end

theorem keyOf?_move (index : MethodIndex) (method : Site) :
    (index.move delta).keyOf? (method.move delta) =
      (index.keyOf? method).map (moveKey delta.lines) := by
  have found := Assoc.get?_rename (moveKey delta.lines)
    (distinguishes_moveRange delta index.keys.keys method.range)
  rw [← range_move] at found
  exact found

theorem typeMetrics_move (index : MethodIndex) (declaration : Site) :
    (index.move delta).typeMetrics (declaration.move delta) =
      (index.typeMetrics declaration).move delta := by
  simp [typeMetrics, TypeMetrics.move, Site.memberMethods_move, List.filter_map,
    List.filterMap_map, List.map_filterMap, keyOf?_move, Function.comp_def]

theorem lineDecisions_move {index : MethodIndex}
    (ofComplexity : ∀ key ∈ index.complexity.keys, IsMethodKey key) :
    (index.move delta).lineDecisions = index.lineDecisions.shift delta.lines id := by
  have apart : ∀ key ∈ index.complexity.keys,
      Assoc.Distinguishes (moveKey delta.lines) index.complexity.keys key := fun key member =>
    distinguishes_moveKey ofComplexity (ofComplexity key member)
  have decisions : (index.move delta).complexity.values.flatMap (·.decisions.entries) =
      (index.complexity.values.flatMap (·.decisions.entries)).map fun entry =>
        (entry.1 + (delta.lines : Int), entry.2) := by
    simp only [move, Assoc.values_rename _ apart, List.flatMap_map, List.map_flatMap,
      Complexity.move, Assoc.entries_shift, id]
  rw [lineDecisions, decisions, Assoc.tally_shift, Assoc.sorted_shift, lineDecisions]

end MethodIndex

namespace Outline

variable (delta : Displacement)

def move (outline : Outline) : Outline where
  index := outline.index.move delta
  types := outline.types.map (TypeMetrics.move delta)

theorem ofTree_move {tree : Node} (plain : ∀ method ∈ tree.methods, MethodIndex.IsPlain method) :
    ofTree (tree.move delta) = (ofTree tree).move delta := by
  have index := MethodIndex.ofMethods_move delta plain
  rw [← Node.methods_move] at index
  simp only [ofTree, move, index, Node.typeDeclarations_move, List.map_map, Function.comp_def,
    MethodIndex.typeMetrics_move]

end Outline

namespace Analysis

theorem context?_move (delta : Displacement) (fields : List TypedName) {index : MethodIndex}
    {metrics : MethodMetrics} (ofSites : ∀ key ∈ index.sites.keys, IsMethodKey key)
    (ofComplexity : ∀ key ∈ index.complexity.keys, IsMethodKey key)
    (isKey : IsMethodKey metrics.key) :
    context? fields (index.move delta) (metrics.move delta) =
      (context? fields index metrics).map (MethodContext.move delta) := by
  simp only [context?, MethodIndex.move, MethodMetrics.move,
    Assoc.get?_rename (Site.move delta) (distinguishes_moveKey ofSites isKey),
    Assoc.get?_rename (Complexity.move delta) (distinguishes_moveKey ofComplexity isKey)]
  cases index.sites.get? metrics.key with
  | none => rfl
  | some method =>
    cases index.complexity.get? metrics.key with
    | none => rfl
    | some complexity => simp [MethodContext.move]

/-- The methods of a moved unit are analysed one after another in their moved contexts. -/
theorem contexts_move (delta : Displacement) {tree : Node}
    (plain : ∀ method ∈ tree.methods, MethodIndex.IsPlain method) :
    contexts (tree.move delta) = (contexts tree).map (MethodContext.move delta) := by
  have index := MethodIndex.ofMethods_move delta plain
  rw [← Node.methods_move] at index
  have fields : (Site.root (tree.move delta)).fields = (Site.root tree).fields := by
    rw [← Site.move_root, Site.fields_move]
  have isKey := MethodIndex.isMethodKey_of_mem plain
  have ofSites : ∀ key ∈ (MethodIndex.ofMethods tree.methods).sites.keys, IsMethodKey key := by
    intro key member
    exact isKey key (MethodIndex.contains_sites_iff.mp (Assoc.contains_iff.mpr member))
  unfold contexts
  rw [fields, index, List.map_filterMap, MethodIndex.move, List.filterMap_map]
  apply List.filterMap_congr
  intro metrics member
  exact context?_move delta _ ofSites (MethodIndex.isMethodKey_of_mem_complexity plain) (isKey _ (List.mem_map_of_mem member))

end Analysis

end JavaAudit
