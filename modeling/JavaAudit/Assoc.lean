/-! Finite maps that keep the order in which their keys were first inserted.

An insertion decides the lookup of its own key only; in a map built from a list the last entry of
a key counts. -/

set_option autoImplicit false

namespace JavaAudit

@[ext]
structure Assoc (κ ν : Type) where
  entries : List (κ × ν)
  distinct : (entries.map (·.1)).Nodup
  deriving DecidableEq, Repr

namespace Assoc

section
variable {κ ν μ : Type}

def empty : Assoc κ ν :=
  ⟨[], .nil⟩

def keys (map : Assoc κ ν) : List κ :=
  map.entries.map (·.1)

def values (map : Assoc κ ν) : List ν :=
  map.entries.map (·.2)

theorem keys_nodup (map : Assoc κ ν) : map.keys.Nodup :=
  map.distinct

def mapValues (transform : κ → ν → μ) (map : Assoc κ ν) : Assoc κ μ where
  entries := map.entries.map fun entry => (entry.1, transform entry.1 entry.2)
  distinct := by
    rw [List.map_map]
    exact map.distinct

@[simp] theorem keys_mapValues (transform : κ → ν → μ) (map : Assoc κ ν) :
    (map.mapValues transform).keys = map.keys := by
  simp [keys, mapValues, Function.comp_def]

end

variable {κ ν μ : Type} [DecidableEq κ]

def get? (map : Assoc κ ν) (key : κ) : Option ν :=
  map.entries.lookup key

def contains (map : Assoc κ ν) (key : κ) : Bool :=
  (map.get? key).isSome

theorem lookup_cons_ite (key other : κ) (value : ν) (rest : List (κ × ν)) :
    ((key, value) :: rest).lookup other =
      if other = key then some value else rest.lookup other := by
  rw [List.lookup_cons]
  by_cases wanted : other = key
  · simp [wanted]
  · rw [beq_false_of_ne wanted, if_neg wanted]

theorem lookup_isSome_iff_mem {entries : List (κ × ν)} {key : κ} :
    (entries.lookup key).isSome = true ↔ key ∈ entries.map (·.1) := by
  simp only [List.lookup_isSome_iff, List.mem_map, beq_iff_eq]
  exact exists_congr fun entry => and_congr_right fun _ => eq_comm

theorem lookup_eq_some_iff_mem {entries : List (κ × ν)} {key : κ} {value : ν}
    (distinct : (entries.map (·.1)).Nodup) :
    entries.lookup key = some value ↔ (key, value) ∈ entries := by
  induction entries with
  | nil => simp
  | cons entry rest ih =>
    obtain ⟨entryKey, entryValue⟩ := entry
    obtain ⟨fresh, restDistinct⟩ := List.nodup_cons.mp distinct
    rw [lookup_cons_ite, List.mem_cons, Prod.mk.injEq]
    by_cases wanted : key = entryKey
    · subst wanted
      have absent : (key, value) ∉ rest := fun member =>
        fresh (List.mem_map.mpr ⟨_, member, rfl⟩)
      simp [absent, eq_comm]
    · simp [wanted, ih restDistinct]

theorem lookup_map (transform : κ → ν → μ) (entries : List (κ × ν)) (key : κ) :
    (entries.map fun entry => (entry.1, transform entry.1 entry.2)).lookup key =
      (entries.lookup key).map (transform key) := by
  induction entries with
  | nil => rfl
  | cons entry rest ih =>
    rw [List.map_cons, lookup_cons_ite, lookup_cons_ite, ih]
    by_cases wanted : key = entry.1
    · subst wanted
      simp
    · simp [wanted]

theorem contains_iff {map : Assoc κ ν} {key : κ} : map.contains key = true ↔ key ∈ map.keys :=
  lookup_isSome_iff_mem

theorem get?_eq_none {map : Assoc κ ν} {key : κ} (fresh : key ∉ map.keys) :
    map.get? key = none := by
  rw [← Option.not_isSome_iff_eq_none]
  exact fun found => fresh (contains_iff.mp found)

theorem get?_eq_some_iff_mem {map : Assoc κ ν} {key : κ} {value : ν} :
    map.get? key = some value ↔ (key, value) ∈ map.entries :=
  lookup_eq_some_iff_mem map.distinct

def replaceIn (key : κ) (value : ν) : List (κ × ν) → List (κ × ν)
  | [] => []
  | entry :: rest =>
    if entry.1 = key then (key, value) :: rest else entry :: replaceIn key value rest

theorem replaceIn_keys (key : κ) (value : ν) (entries : List (κ × ν)) :
    (replaceIn key value entries).map (·.1) = entries.map (·.1) := by
  induction entries with
  | nil => rfl
  | cons entry rest ih =>
    by_cases same : entry.1 = key
    · simp [replaceIn, same]
    · simp [replaceIn, same, ih]

theorem lookup_replaceIn (key other : κ) (value : ν) (entries : List (κ × ν))
    (known : key ∈ entries.map (·.1)) :
    (replaceIn key value entries).lookup other =
      if other = key then some value else entries.lookup other := by
  induction entries with
  | nil => simp at known
  | cons entry rest ih =>
    obtain ⟨entryKey, entryValue⟩ := entry
    by_cases same : entryKey = key
    · by_cases wanted : other = key <;> simp [replaceIn, lookup_cons_ite, same, wanted]
    · have restKnown : key ∈ rest.map (·.1) := by simpa [Ne.symm same] using known
      by_cases wanted : other = entryKey
      · simp [replaceIn, same, wanted]
      · simp [replaceIn, lookup_cons_ite, same, wanted, ih restKnown]

omit [DecidableEq κ] in
theorem nodup_concat {entries : List (κ × ν)} {key : κ} (value : ν)
    (distinct : (entries.map (·.1)).Nodup) (fresh : key ∉ entries.map (·.1)) :
    ((entries ++ [(key, value)]).map (·.1)).Nodup := by
  rw [List.map_append, List.nodup_append]
  refine ⟨distinct, by simp, ?_⟩
  rintro other member last isLast rfl
  obtain rfl : other = key := List.mem_singleton.mp isLast
  exact fresh member

/-- A new key goes to the end; a known key keeps its place and takes the new value. -/
def insert (map : Assoc κ ν) (key : κ) (value : ν) : Assoc κ ν :=
  if known : map.contains key then
    ⟨replaceIn key value map.entries, by
      rw [replaceIn_keys]
      exact map.distinct⟩
  else
    ⟨map.entries ++ [(key, value)], nodup_concat value map.distinct (mt contains_iff.mpr known)⟩

theorem entries_insert_of_contains {map : Assoc κ ν} {key : κ} (known : map.contains key = true)
    (value : ν) : (map.insert key value).entries = replaceIn key value map.entries := by
  rw [insert, dif_pos known]

theorem entries_insert_of_not_contains {map : Assoc κ ν} {key : κ}
    (fresh : ¬map.contains key = true) (value : ν) :
    (map.insert key value).entries = map.entries ++ [(key, value)] := by
  rw [insert, dif_neg fresh]

theorem get?_insert (map : Assoc κ ν) (key : κ) (value : ν) (other : κ) :
    (map.insert key value).get? other = if other = key then some value else map.get? other := by
  by_cases known : map.contains key = true
  · rw [get?, entries_insert_of_contains known]
    exact lookup_replaceIn key other value map.entries (contains_iff.mp known)
  · have fresh : map.get? key = none :=
      get?_eq_none fun member => known (contains_iff.mpr member)
    rw [get?, entries_insert_of_not_contains known, List.lookup_append, lookup_cons_ite]
    by_cases wanted : other = key
    · rw [wanted, ← get?, fresh, Option.none_or, if_pos rfl, if_pos rfl]
    · rw [if_neg wanted, if_neg wanted, List.lookup_nil, Option.or_none, get?]

theorem mem_keys_insert {map : Assoc κ ν} {key other : κ} {value : ν} :
    other ∈ (map.insert key value).keys ↔ other = key ∨ other ∈ map.keys := by
  rw [← contains_iff, ← contains_iff, contains, get?_insert, contains]
  by_cases wanted : other = key <;> simp [wanted]

def ofList (entries : List (κ × ν)) : Assoc κ ν :=
  entries.foldl (fun map entry => map.insert entry.1 entry.2) empty

theorem ofList_concat (entries : List (κ × ν)) (key : κ) (value : ν) :
    ofList (entries ++ [(key, value)]) = (ofList entries).insert key value := by
  simp [ofList, List.foldl_append]

theorem get?_foldl_insert (entries : List (κ × ν)) (map : Assoc κ ν) (key : κ) :
    (entries.foldl (fun map entry => map.insert entry.1 entry.2) map).get? key =
      (entries.reverse.lookup key).or (map.get? key) := by
  induction entries generalizing map with
  | nil => rfl
  | cons entry rest ih =>
    rw [List.foldl_cons, ih, get?_insert, List.reverse_cons, List.lookup_append, lookup_cons_ite,
      Option.or_assoc]
    split <;> rfl

theorem get?_ofList (entries : List (κ × ν)) (key : κ) :
    (ofList entries).get? key = entries.reverse.lookup key := by
  rw [ofList, get?_foldl_insert]
  exact Option.or_none

theorem mem_keys_ofList {entries : List (κ × ν)} {key : κ} :
    key ∈ (ofList entries).keys ↔ key ∈ entries.map (·.1) := by
  rw [← contains_iff, contains, get?_ofList, lookup_isSome_iff_mem, List.map_reverse,
    List.mem_reverse]

theorem mem_of_get?_ofList {entries : List (κ × ν)} {key : κ} {value : ν}
    (found : (ofList entries).get? key = some value) : (key, value) ∈ entries := by
  rw [get?_ofList, List.lookup_eq_some_iff] at found
  obtain ⟨later, earlier, split, _⟩ := found
  rw [← List.mem_reverse, split]
  simp

theorem get?_ofList_of_mem {entries : List (κ × ν)} {key : κ} {value : ν}
    (distinct : (entries.map (·.1)).Nodup) (member : (key, value) ∈ entries) :
    (ofList entries).get? key = some value := by
  have reversed : (entries.reverse.map (·.1)).Nodup := by
    rw [List.map_reverse]
    exact List.pairwise_reverse.mpr (distinct.imp Ne.symm)
  rw [get?_ofList, lookup_eq_some_iff_mem reversed, List.mem_reverse]
  exact member

theorem get?_ofList_mapKeyed (transform : κ → ν → μ) (entries : List (κ × ν)) (key : κ) :
    (ofList (entries.map fun entry => (entry.1, transform entry.1 entry.2))).get? key =
      ((ofList entries).get? key).map (transform key) := by
  rw [get?_ofList, get?_ofList, ← List.map_reverse, lookup_map]

theorem get?_ofList_map (transform : ν → μ) (entries : List (κ × ν)) (key : κ) :
    (ofList (entries.map fun entry => (entry.1, transform entry.2))).get? key =
      ((ofList entries).get? key).map transform :=
  get?_ofList_mapKeyed (fun _ => transform) entries key

theorem entries_foldl_insert {entries : List (κ × ν)} {map : Assoc κ ν}
    (distinct : ((map.entries ++ entries).map (·.1)).Nodup) :
    (entries.foldl (fun map entry => map.insert entry.1 entry.2) map).entries =
      map.entries ++ entries := by
  induction entries generalizing map with
  | nil => simp
  | cons entry rest ih =>
    have fresh : ¬map.contains entry.1 = true := by
      rw [contains_iff]
      intro known
      rw [List.map_append, List.nodup_append] at distinct
      exact distinct.2.2 entry.1 known entry.1 (by simp) rfl
    have longer := entries_insert_of_not_contains fresh entry.2
    rw [List.foldl_cons, ih, longer, List.append_assoc, List.singleton_append]
    rwa [longer, List.append_assoc, List.singleton_append]

theorem entries_ofList {entries : List (κ × ν)} (distinct : (entries.map (·.1)).Nodup) :
    (ofList entries).entries = entries :=
  entries_foldl_insert distinct

theorem ofList_entries (map : Assoc κ ν) : ofList map.entries = map :=
  Assoc.ext (entries_ofList map.distinct)

theorem mem_of_mem_entries_ofList {entries : List (κ × ν)} {entry : κ × ν}
    (member : entry ∈ (ofList entries).entries) : entry ∈ entries :=
  mem_of_get?_ofList (get?_eq_some_iff_mem.mpr member)

theorem mem_values_ofList {entries : List (κ × ν)} {value : ν}
    (member : value ∈ (ofList entries).values) : value ∈ entries.map (·.2) := by
  obtain ⟨entry, inside, rfl⟩ := List.mem_map.mp member
  exact List.mem_map_of_mem (mem_of_mem_entries_ofList inside)

/-- The last entry of a key counts. -/
theorem get?_ofList_of_last {before after : List (κ × ν)} {key : κ} {value : ν}
    (last : key ∉ after.map (·.1)) :
    (ofList (before ++ (key, value) :: after)).get? key = some value := by
  have later : after.reverse.lookup key = none := by
    rw [← get?_ofList]
    exact get?_eq_none (mt mem_keys_ofList.mp last)
  rw [get?_ofList, List.reverse_append, List.reverse_cons, List.append_assoc, List.lookup_append,
    later, Option.none_or, List.singleton_append, List.lookup_cons_self]

def sortedEntries (map : Assoc Int ν) : List (Int × ν) :=
  map.entries.mergeSort fun left right => left.1 ≤ right.1

theorem sortedEntries_perm (map : Assoc Int ν) : map.sortedEntries.Perm map.entries :=
  List.mergeSort_perm _ _

def sorted (map : Assoc Int ν) : Assoc Int ν :=
  ⟨map.sortedEntries, (map.sortedEntries_perm.map _).nodup_iff.mpr map.distinct⟩

theorem get?_eq_some_iff_mem_sortedEntries {map : Assoc Int ν} {key : Int} {value : ν} :
    map.get? key = some value ↔ (key, value) ∈ map.sortedEntries := by
  rw [get?_eq_some_iff_mem, map.sortedEntries_perm.mem_iff]

theorem get?_sorted (map : Assoc Int ν) (key : Int) : map.sorted.get? key = map.get? key := by
  apply Option.ext
  intro value
  rw [map.get?_eq_some_iff_mem_sortedEntries, map.sorted.get?_eq_some_iff_mem, sorted]

theorem sortedEntries_ascending (map : Assoc Int ν) :
    map.sortedEntries.Pairwise fun left right => left.1 < right.1 := by
  have sorted : map.sortedEntries.Pairwise fun left right => left.1 ≤ right.1 := by
    refine (List.pairwise_mergeSort ?_ ?_ map.entries).imp of_decide_eq_true
    · intro left middle right
      simp only [decide_eq_true_eq]
      omega
    · intro left right
      simp only [Bool.or_eq_true, decide_eq_true_eq]
      omega
  refine (sorted.and (List.pairwise_map.mp map.sorted.distinct)).imp ?_
  rintro left right ⟨atMost, different⟩
  omega

theorem sorted_keys_ascending (map : Assoc Int ν) : map.sorted.keys.Pairwise (· < ·) :=
  List.pairwise_map.mpr map.sortedEntries_ascending

theorem sortedEntries_of_ascending {map : Assoc Int ν} (ascending : map.keys.Pairwise (· < ·)) :
    map.sortedEntries = map.entries := by
  apply List.mergeSort_of_pairwise
  refine (List.pairwise_map.mp ascending).imp ?_
  intro left right before
  exact decide_eq_true (Int.le_of_lt before)

theorem sorted_of_ascending {map : Assoc Int ν} (ascending : map.keys.Pairwise (· < ·)) :
    map.sorted = map :=
  Assoc.ext (sortedEntries_of_ascending ascending)

theorem sortedEntries_congr {map other : Assoc Int ν}
    (same : ∀ key, map.get? key = other.get? key) : map.sortedEntries = other.sortedEntries := by
  have ascending := map.sortedEntries_ascending
  have otherAscending := other.sortedEntries_ascending
  have different : ∀ left right : Int × ν, left.1 < right.1 → left ≠ right := by
    rintro left _ before rfl
    omega
  have members : ∀ entry, entry ∈ map.sortedEntries ↔ entry ∈ other.sortedEntries := by
    intro entry
    rw [← get?_eq_some_iff_mem_sortedEntries, same, get?_eq_some_iff_mem_sortedEntries]
  have permuted : map.sortedEntries.Perm other.sortedEntries :=
    (List.perm_ext_iff_of_nodup (ascending.imp (different _ _))
      (otherAscending.imp (different _ _))).mpr members
  refine permuted.eq_of_pairwise ?_ ascending otherAscending
  intro left right _ _ before after
  omega

end Assoc

end JavaAudit
