import JavaAudit.Proofs.MethodKeys
import JavaAudit.Summary

/-! Two accounts of the members of a type.

The outline counts the fields and methods of every type and lists the keys of its methods; the
summary lists the fields and methods of the first type. Both go through the same members, so they
have the same methods. But one declaration may declare several fields: the outline counts it once,
the summary lists each of its fields. Main statement: when the two accounts agree. -/

set_option autoImplicit false

namespace JavaAudit

namespace Assoc

variable {κ ν : Type} [DecidableEq κ]

theorem get?_ofList_eq_some_iff {entries : List (κ × ν)} {key : κ} {value : ν} :
    (ofList entries).get? key = some value ↔
      ∃ place : Nat, entries[place]? = some (key, value) ∧
        ∀ later, place < later → (entries.map (·.1))[later]? ≠ some key := by
  constructor
  · intro found
    -- The lookup goes through the entries from the last one on.
    rw [get?_ofList, List.lookup_eq_some_iff] at found
    obtain ⟨after, before, split, fresh⟩ := found
    obtain rfl : entries = before.reverse ++ (key, value) :: after.reverse := by
      rw [← List.reverse_reverse entries, split]
      simp
    refine ⟨before.length, by simp, fun later isLater same => ?_⟩
    rw [List.map_append, List.getElem?_append_right (by simpa using isLater.le),
      List.map_cons, List.length_map, List.length_reverse,
      List.getElem?_cons, if_neg (by omega)] at same
    obtain ⟨entry, member, rfl⟩ := List.mem_map.mp (List.mem_of_getElem? same)
    simpa using fresh entry (List.mem_reverse.mp member)
  · rintro ⟨place, found, last⟩
    obtain ⟨bound, isEntry⟩ := List.getElem?_eq_some_iff.mp found
    rw [← List.take_append_drop place entries, List.drop_eq_getElem_cons bound, isEntry]
    apply get?_ofList_of_last
    intro again
    rw [List.map_drop] at again
    obtain ⟨offset, same⟩ := List.mem_iff_getElem?.mp again
    rw [List.getElem?_drop] at same
    exact last _ (by omega) same

theorem get?_ofList_zip_eq_some_iff {keys : List κ} {values : List ν}
    (sameLength : keys.length = values.length) {key : κ} {value : ν} :
    (ofList (keys.zip values)).get? key = some value ↔
      ∃ place : Nat, keys[place]? = some key ∧ values[place]? = some value ∧
        ∀ later, place < later → keys[later]? ≠ some key := by
  rw [get?_ofList_eq_some_iff, List.map_fst_zip sameLength.le]
  simp only [List.getElem?_zip_eq_some, and_assoc]

end Assoc

namespace MethodIndex

/-- The key that a type finds for a method leads back to the method. -/
def Resolves (index : MethodIndex) (method : Site) : Prop :=
  (index.keyOf? method).bind index.sites.get? = some method

/-- No later method has the byte range or the key of the method. -/
def Undisturbed (methods : List Site) (method : Site) : Prop :=
  ∀ place later : Nat, methods[place]? = some method → place < later →
    (methods.map Site.range)[later]? ≠ some method.range ∧
      (assignedKeys methods)[later]? ≠ (assignedKeys methods)[place]?

theorem keyOf?_eq_some_iff {methods : List Site} {method : Site} {key : String} :
    (ofMethods methods).keyOf? method = some key ↔
      ∃ place : Nat, (methods.map Site.range)[place]? = some method.range ∧
        (assignedKeys methods)[place]? = some key ∧
        ∀ later, place < later → (methods.map Site.range)[later]? ≠ some method.range := by
  rw [keyOf?, keys_eq]
  exact Assoc.get?_ofList_zip_eq_some_iff (by simp)

theorem get?_sites_eq_some_iff {methods : List Site} {method : Site} {key : String} :
    (ofMethods methods).sites.get? key = some method ↔
      ∃ place : Nat, (assignedKeys methods)[place]? = some key ∧ methods[place]? = some method ∧
        ∀ later, place < later → (assignedKeys methods)[later]? ≠ some key := by
  rw [sites_eq]
  exact Assoc.get?_ofList_zip_eq_some_iff (by simp)

theorem getElem?_range {methods : List Site} {method : Site} {place : Nat}
    (isPlace : methods[place]? = some method) :
    (methods.map Site.range)[place]? = some method.range := by
  rw [List.getElem?_map, isPlace]
  rfl

theorem resolves_iff_undisturbed {methods : List Site} (distinct : methods.Nodup) {method : Site}
    (member : method ∈ methods) :
    (ofMethods methods).Resolves method ↔ Undisturbed methods method := by
  rw [Resolves, Option.bind_eq_some_iff]
  simp only [keyOf?_eq_some_iff, get?_sites_eq_some_iff]
  constructor
  · rintro ⟨key, ⟨last, sameRange, lastKey, lastRange⟩, own, ownKey, isOwn, lastOfKey⟩
    -- The last method of the range has the key, and the last method with the key is this one.
    obtain rfl : own = last := by
      rcases Nat.lt_trichotomy own last with before | same | after
      · exact absurd lastKey (lastOfKey last before)
      · exact same
      · exact absurd (getElem?_range isOwn) (lastRange own after)
    intro place later isPlace isLater
    obtain rfl : place = own := by
      apply (List.getElem?_inj (List.getElem?_eq_some_iff.mp isPlace).1 distinct).mp
      rw [isPlace, isOwn]
    rw [ownKey]
    exact ⟨lastRange later isLater, lastOfKey later isLater⟩
  · intro undisturbed
    obtain ⟨place, isPlace⟩ := List.mem_iff_getElem?.mp member
    obtain ⟨bound, _⟩ := List.getElem?_eq_some_iff.mp isPlace
    have known : (assignedKeys methods)[place]? =
        some ((assignedKeys methods).get ⟨place, by simpa using bound⟩) := by simp
    refine ⟨_, ⟨place, getElem?_range isPlace, known, fun later isLater => ?_⟩, place, known, isPlace,
      fun later isLater => ?_⟩
    · exact (undisturbed place later isPlace isLater).1
    · rw [← known]
      exact (undisturbed place later isPlace isLater).2

theorem getElem?_ne_of_nodup {α : Type} {items : List α} (distinct : items.Nodup)
    {place later : Nat} (bound : place < items.length) (isLater : place < later) :
    items[later]? ≠ items[place]? := by
  intro same
  exact isLater.ne ((List.getElem?_inj bound distinct).mp same.symm)

theorem undisturbed_of_nodup {methods : List Site} (ranges : (methods.map Site.range).Nodup)
    (keys : (assignedKeys methods).Nodup) (method : Site) : Undisturbed methods method := by
  intro place later isPlace isLater
  have bound : place < methods.length := (List.getElem?_eq_some_iff.mp isPlace).1
  rw [← getElem?_range isPlace]
  exact ⟨getElem?_ne_of_nodup ranges (by simpa using bound) isLater,
    getElem?_ne_of_nodup keys (by simpa using bound) isLater⟩

/-- The keys are found, one after the other, to be those of the methods. -/
def KeysName (index : MethodIndex) (keys : List String) (methods : List Site) : Prop :=
  List.Forall₂ (fun key method => index.sites.get? key = some method) keys methods

theorem keysName_filterMap_iff {index : MethodIndex} {methods : List Site}
    (keyed : ∀ method ∈ methods, (index.keyOf? method).isSome) :
    index.KeysName (methods.filterMap index.keyOf?) methods ↔
      ∀ method ∈ methods, index.Resolves method := by
  induction methods with
  | nil => exact iff_of_true .nil nofun
  | cons method rest ih =>
    obtain ⟨own, others⟩ := List.forall_mem_cons.mp keyed
    obtain ⟨key, found⟩ := Option.isSome_iff_exists.mp own
    rw [List.filterMap_cons_some found, KeysName, List.forall₂_cons, ← KeysName, ih others,
      List.forall_mem_cons, Resolves, found, Option.bind_some]

end MethodIndex

namespace Site

def memberFields (declaration : Site) : List Site :=
  declaration.members.filter (·.kind.isField)

def DeclaresFields (declaration : Site) : Prop :=
  ∀ field ∈ declaration.memberFields, field.childrenIn .declarator ≠ []

/-- Every field declaration of the type declares one field. -/
def DeclaresFieldsSingly (declaration : Site) : Prop :=
  ∀ field ∈ declaration.memberFields, (field.childrenIn .declarator).length = 1

theorem length_le_flatMap {α β : Type} {items : List α} {parts : α → List β}
    (filled : ∀ item ∈ items, parts item ≠ []) :
    items.length ≤ (items.flatMap parts).length := by
  induction items with
  | nil => exact Nat.le_refl 0
  | cons item rest ih =>
    obtain ⟨own, others⟩ := List.forall_mem_cons.mp filled
    have positive := List.length_pos_of_ne_nil own
    have restAtMost := ih others
    rw [List.flatMap_cons, List.length_append, List.length_cons]
    omega

theorem length_flatMap_eq_iff {α β : Type} {items : List α} {parts : α → List β}
    (filled : ∀ item ∈ items, parts item ≠ []) :
    items.length = (items.flatMap parts).length ↔ ∀ item ∈ items, (parts item).length = 1 := by
  induction items with
  | nil => exact iff_of_true rfl nofun
  | cons item rest ih =>
    obtain ⟨own, others⟩ := List.forall_mem_cons.mp filled
    have positive := List.length_pos_of_ne_nil own
    have restAtMost := length_le_flatMap others
    have restExact := ih others
    rw [List.forall_mem_cons, ← restExact, List.flatMap_cons, List.length_append,
      List.length_cons]
    omega

theorem fieldCount_eq_iff {declaration : Site} (declares : declaration.DeclaresFields) :
    declaration.memberFields.length =
        (declaration.memberFields.flatMap fieldSummaries).length ↔
      declaration.DeclaresFieldsSingly := by
  have filled : ∀ field ∈ declaration.memberFields, field.fieldSummaries ≠ [] :=
    fun field isField => by
      rw [fieldSummaries, ne_eq, List.map_eq_nil_iff]
      exact declares field isField
  rw [length_flatMap_eq_iff filled, DeclaresFieldsSingly]
  simp only [fieldSummaries, List.length_map]

end Site

/-- The metrics of a type and its summary agree on its members: there are as many methods, with
the keys of the same methods in the same order, and as many fields. -/
structure TypeMetrics.Agrees (metrics : TypeMetrics) (index : MethodIndex) (declaration : Site)
    (summary : TypeSummary) : Prop where
  methodCount : metrics.methodCount = summary.methods.length
  methodKeys : index.KeysName metrics.methodKeys declaration.memberMethods
  fieldCount : metrics.fieldCount = summary.fields.length

namespace Outline

theorem mem_typeDeclarations_of_primaryType? {tree : Node} {declaration : Site}
    (isPrimary : (Site.root tree).primaryType? = some declaration) :
    declaration ∈ tree.typeDeclarations := by
  have isChild : declaration ∈ (Site.root tree).children :=
    (List.mem_filter.mp (List.mem_of_find?_eq_some isPrimary)).1
  have isType : declaration.kind.isTypeDeclaration = true := by
    simpa using List.find?_some isPrimary
  exact Site.mem_findBelow.mpr
    ⟨Site.mem_walk_step.mpr ⟨declaration, isChild, .inl rfl⟩, isType⟩

theorem keysName_typeMetrics_iff {tree : Node} {declaration : Site}
    (isDeclaration : declaration ∈ tree.typeDeclarations) :
    let index := MethodIndex.ofMethods tree.methods
    index.KeysName (index.typeMetrics declaration).methodKeys declaration.memberMethods ↔
      ∀ method ∈ declaration.memberMethods, MethodIndex.Undisturbed tree.methods method := by
  intro index
  rw [MethodIndex.typeMetrics, MethodIndex.keysName_filterMap_iff fun _ isMethod =>
    MethodIndex.exists_member_key isDeclaration isMethod]
  refine forall₂_congr fun method isMethod => ?_
  obtain ⟨isMember, kind⟩ := List.mem_filter.mp isMethod
  have indexed : method ∈ tree.methods := Site.mem_findBelow.mpr
    ⟨Site.mem_below_of_mem_members (Site.mem_findBelow.mp isDeclaration).1 isMember, kind⟩
  exact MethodIndex.resolves_iff_undisturbed (Site.findBelow_nodup _ _) indexed

/-- The metrics of the first type of a unit have as many methods as its summary, and count its field
declarations. They agree with the summary exactly if each of these declares one field and no later
method of the unit shares the byte range or the key of a method of the type. Methods with byte
ranges of their own and unambiguous keys are always named. -/
theorem accounts_agree_iff (tree : Node) (summary : TypeSummary)
    (summarized : (Site.root tree).summary? = some summary) :
    ∃ outline declaration metrics, ofRoot? (.root tree) = some outline ∧
      (Site.root tree).primaryType? = some declaration ∧
      (declaration, metrics) ∈ tree.typeDeclarations.zip outline.types ∧
      summary.methods = declaration.memberMethods.map Site.methodSummary ∧
      summary.fields = declaration.memberFields.flatMap Site.fieldSummaries ∧
      metrics.methodCount = summary.methods.length ∧
      metrics.fieldCount = declaration.memberFields.length ∧
      (declaration.DeclaresFields →
        (metrics.Agrees outline.index declaration summary ↔
          declaration.DeclaresFieldsSingly ∧ ∀ method ∈ declaration.memberMethods,
            MethodIndex.Undisturbed tree.methods method)) ∧
      ((tree.methods.map Site.range).Nodup → MethodIndex.Unambiguous tree.methods →
        outline.index.KeysName metrics.methodKeys declaration.memberMethods) := by
  obtain ⟨declaration, isPrimary, rfl⟩ := Option.map_eq_some_iff.mp summarized
  have isDeclaration := mem_typeDeclarations_of_primaryType? isPrimary
  let metrics := (MethodIndex.ofMethods tree.methods).typeMetrics declaration
  -- The metrics of the types are listed in the order of the declarations.
  have paired : (declaration, metrics) ∈ tree.typeDeclarations.zip (ofTree tree).types := by
    obtain ⟨place, isPlace⟩ := List.mem_iff_getElem?.mp isDeclaration
    refine List.mem_of_getElem? (List.getElem?_zip_eq_some.mpr ⟨isPlace, ?_⟩)
    rw [ofTree, List.getElem?_map, isPlace]
    rfl
  have methodCount : metrics.methodCount =
      (declaration.memberMethods.map Site.methodSummary).length := by
    rw [List.length_map]
    rfl
  have named := keysName_typeMetrics_iff isDeclaration
  refine ⟨_, declaration, metrics, ofRoot?_eq tree, isPrimary, paired, rfl, rfl, methodCount, rfl,
    fun declares => ?_, fun ranges unambiguous => ?_⟩
  · have counted : metrics.fieldCount =
        (declaration.memberFields.flatMap Site.fieldSummaries).length ↔
          declaration.DeclaresFieldsSingly :=
      Int.ofNat_inj.trans (Site.fieldCount_eq_iff declares)
    constructor
    · intro agrees
      exact ⟨counted.mp agrees.fieldCount, named.mp agrees.methodKeys⟩
    · rintro ⟨singly, undisturbed⟩
      exact ⟨methodCount, named.mpr undisturbed, counted.mpr singly⟩
  · have keys := MethodIndex.assignedKeys_nodup_iff.mpr unambiguous
    exact named.mpr fun method _ => MethodIndex.undisturbed_of_nodup ranges keys method

def intFields (source : String) (start count : Nat) : Node :=
  let node := Node.ofAscii source
  let stop := start + 3 * count + 3
  let declarators := (List.range count).flatMap fun place =>
    let name := start + 4 + 3 * place
    (if place = 0 then [] else [.token source "," (name - 2)]) ++
      [node .variableDeclarator true (some .declarator) name (name + 1) [
        node .identifier true (some .name) name (name + 1) []]]
  node .fieldDeclaration true none start stop (
    node (.other "integral_type") true (some .type) start (start + 3) [.token source "int" start] ::
      declarators ++ [node .semicolon false none (stop - 1) stop []])

def fieldAndOverloads : Node :=
  let source := "class A \x7b int x; void f() \x7b \x7d\nvoid f() \x7b \x7d \x7d"
  .soleClass source [
    intFields source 10 1, .voidMethod source 17 29 [], .voidMethod source 30 42 []]

def twoFieldsInOne : Node :=
  let source := "class A \x7b int a, b; \x7d"
  .soleClass source [intFields source 10 2]

theorem field_and_overloads_agree :
    ∃ outline declaration metrics summary, ofRoot? (.root fieldAndOverloads) = some outline ∧
      (Site.root fieldAndOverloads).summary? = some summary ∧
      (declaration, metrics) ∈ fieldAndOverloads.typeDeclarations.zip outline.types ∧
      summary.methods.map (·.name) = ["f", "f"] ∧ summary.fields.map (·.name) = ["x"] ∧
      metrics.Agrees outline.index declaration summary := by
  let summary := (Site.root fieldAndOverloads).summary?.get (by decide)
  have summarized : (Site.root fieldAndOverloads).summary? = some summary :=
    (Option.some_get _).symm
  have ranges : (fieldAndOverloads.methods.map Site.range).Nodup := by decide +kernel
  have keys : (MethodIndex.assignedKeys fieldAndOverloads.methods).Nodup := by decide +kernel
  obtain ⟨outline, declaration, metrics, outlined, isPrimary, paired, _, _, _, _, agrees, _⟩ :=
    accounts_agree_iff fieldAndOverloads summary summarized
  refine ⟨outline, declaration, metrics, summary, outlined, summarized, paired, by decide +kernel,
    by decide +kernel, ?_⟩
  obtain rfl : declaration = (Site.root fieldAndOverloads).primaryType?.get (by decide) := by
    simp [isPrimary]
  have singly : Site.DeclaresFieldsSingly
      ((Site.root fieldAndOverloads).primaryType?.get (by decide)) := by
    unfold Site.DeclaresFieldsSingly
    decide +kernel
  refine (agrees ?_).mpr ⟨singly, fun method _ =>
    MethodIndex.undisturbed_of_nodup ranges keys method⟩
  intro field isField declaresNone
  have one := singly field isField
  rw [declaresNone] at one
  cases one

/-- Two fields in one declaration are one field for the metrics and two for the summary. -/
theorem two_fields_counted_once :
    ∃ outline declaration metrics summary, ofRoot? (.root twoFieldsInOne) = some outline ∧
      (Site.root twoFieldsInOne).primaryType? = some declaration ∧
      (Site.root twoFieldsInOne).summary? = some summary ∧ outline.types = [metrics] ∧
      metrics.fieldCount = 1 ∧ summary.fields.map (·.name) = ["a", "b"] ∧
      ¬metrics.Agrees outline.index declaration summary := by
  refine ⟨ofTree twoFieldsInOne, (Site.root twoFieldsInOne).primaryType?.get (by decide), _,
    (Site.root twoFieldsInOne).summary?.get (by decide), ofRoot?_eq _, by simp, by simp, rfl,
    by decide +kernel, by decide +kernel, ?_⟩
  intro agrees
  exact absurd agrees.fieldCount (by decide +kernel)

end Outline

end JavaAudit
