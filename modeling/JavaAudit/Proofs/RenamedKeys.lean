import Mathlib.Data.List.Induction
import Mathlib.Data.List.Nodup
import JavaAudit.Complexity

/-! Maps with renamed keys.

If a renaming keeps the keys of a map apart, neither lookups and insertions nor the order of the
entries depend on the names. -/

set_option autoImplicit false

namespace JavaAudit.Assoc

variable {κ ν μ : Type} [DecidableEq κ]

/-- Replace each key and each value; of entries that are given one key the last counts. -/
def rename (name : κ → κ) (transform : ν → μ) (map : Assoc κ ν) : Assoc κ μ :=
  .ofList (map.entries.map fun entry => (name entry.1, transform entry.2))

def Distinguishes (name : κ → κ) (keys : List κ) (key : κ) : Prop :=
  ∀ other ∈ keys, name other = name key → other = key

section
variable {name : κ → κ} (transform : ν → μ)

theorem entries_rename {map : Assoc κ ν}
    (apart : ∀ key ∈ map.keys, Distinguishes name map.keys key) :
    (map.rename name transform).entries =
      map.entries.map fun entry => (name entry.1, transform entry.2) := by
  apply entries_ofList
  have renamed : (map.keys.map name).Nodup :=
    map.keys_nodup.map_on fun other member key isKey => apart key isKey other member
  simpa [keys, Function.comp_def] using renamed

theorem values_rename {map : Assoc κ ν}
    (apart : ∀ key ∈ map.keys, Distinguishes name map.keys key) :
    (map.rename name transform).values = map.values.map transform := by
  simp [values, entries_rename transform apart]

theorem lookup_rename {entries : List (κ × ν)} {key : κ}
    (apart : Distinguishes name (entries.map (·.1)) key) :
    (entries.map fun entry => (name entry.1, transform entry.2)).lookup (name key) =
      (entries.lookup key).map transform := by
  induction entries with
  | nil => rfl
  | cons entry rest ih =>
    have same : name key = name entry.1 ↔ key = entry.1 :=
      ⟨fun equal => (apart entry.1 (List.mem_cons_self ..) equal.symm).symm, congrArg name⟩
    have restApart : Distinguishes name (rest.map (·.1)) key := fun other member =>
      apart other (List.mem_cons_of_mem _ member)
    rw [List.map_cons, lookup_cons_ite, lookup_cons_ite, ih restApart]
    by_cases wanted : key = entry.1
    · rw [if_pos (same.mpr wanted), if_pos wanted]
      rfl
    · rw [if_neg (mt same.mp wanted), if_neg wanted]

theorem get?_rename {map : Assoc κ ν} {key : κ} (apart : Distinguishes name map.keys key) :
    (map.rename name transform).get? (name key) = (map.get? key).map transform := by
  have reversed : Distinguishes name (map.entries.reverse.map (·.1)) key := fun other member =>
    apart other (by simpa [keys] using member)
  rw [rename, get?_ofList, ← List.map_reverse, lookup_rename transform reversed, ← get?_ofList,
    ofList_entries]

theorem replaceIn_rename {entries : List (κ × ν)} {key : κ} (value : ν)
    (apart : Distinguishes name (entries.map (·.1)) key) :
    replaceIn (name key) (transform value)
        (entries.map fun entry => (name entry.1, transform entry.2)) =
      (replaceIn key value entries).map fun entry => (name entry.1, transform entry.2) := by
  induction entries with
  | nil => rfl
  | cons entry rest ih =>
    have restApart : Distinguishes name (rest.map (·.1)) key := fun other member =>
      apart other (List.mem_cons_of_mem _ member)
    rw [List.map_cons, replaceIn, replaceIn, ih restApart]
    by_cases wanted : entry.1 = key
    · simp [wanted]
    · have different : name entry.1 ≠ name key := fun equal =>
        wanted (apart entry.1 (List.mem_cons_self ..) equal)
      simp [wanted, different]

theorem insert_rename {map : Assoc κ ν} {key : κ} (value : ν)
    (apart : ∀ other ∈ key :: map.keys, Distinguishes name (key :: map.keys) other) :
    (map.rename name transform).insert (name key) (transform value) =
      (map.insert key value).rename name transform := by
  have mapApart : ∀ other ∈ map.keys, Distinguishes name map.keys other :=
    fun other member known isKnown =>
      apart other (List.mem_cons_of_mem _ member) known (List.mem_cons_of_mem _ isKnown)
  have keyApart : Distinguishes name map.keys key := fun known isKnown =>
    apart key List.mem_cons_self known (List.mem_cons_of_mem _ isKnown)
  have insertApart : ∀ other ∈ (map.insert key value).keys,
      Distinguishes name (map.insert key value).keys other := fun other member known isKnown =>
    apart other (List.mem_cons.mpr (mem_keys_insert.mp member)) known
      (List.mem_cons.mpr (mem_keys_insert.mp isKnown))
  have sameKnown : (map.rename name transform).contains (name key) = map.contains key := by
    rw [contains, get?_rename transform keyApart, Option.isSome_map, contains]
  apply Assoc.ext
  rw [entries_rename transform insertApart]
  -- A known key is replaced in its place, a new one goes to the end, and renaming keeps both.
  by_cases known : map.contains key = true
  · rw [entries_insert_of_contains (sameKnown.trans known), entries_insert_of_contains known,
      entries_rename transform mapApart]
    exact replaceIn_rename transform value keyApart
  · rw [entries_insert_of_not_contains (sameKnown ▸ known), entries_insert_of_not_contains known,
      entries_rename transform mapApart, List.map_append, List.map_singleton]

theorem ofList_rename {entries : List (κ × ν)}
    (apart : ∀ key ∈ entries.map (·.1), Distinguishes name (entries.map (·.1)) key) :
    ofList (entries.map fun entry => (name entry.1, transform entry.2)) =
      (ofList entries).rename name transform := by
  -- Entries are inserted one after another, so the induction is from the end.
  induction entries using List.reverseRecOn with
  | nil => rfl
  | append_singleton entries entry ih =>
    have earlier : ∀ key ∈ entries.map (·.1), key ∈ (entries ++ [entry]).map (·.1) := by
      intro key member
      rw [List.map_append]
      exact List.mem_append_left _ member
    have inserted : ∀ key ∈ entry.1 :: (ofList entries).keys,
        key ∈ (entries ++ [entry]).map (·.1) := by
      rw [List.forall_mem_cons]
      exact ⟨by simp, fun key member => earlier key (mem_keys_ofList.mp member)⟩
    have entriesApart : ∀ key ∈ entries.map (·.1),
        Distinguishes name (entries.map (·.1)) key := fun key member other otherMember =>
      apart key (earlier key member) other (earlier other otherMember)
    have insertApart : ∀ key ∈ entry.1 :: (ofList entries).keys,
        Distinguishes name (entry.1 :: (ofList entries).keys) key :=
      fun key member other otherMember =>
        apart key (inserted key member) other (inserted other otherMember)
    rw [List.map_append, List.map_singleton, ofList_concat, ih entriesApart,
      insert_rename transform entry.2 insertApart, ofList_concat]

end

def shift (amount : Int) (transform : ν → μ) : Assoc Int ν → Assoc Int μ :=
  rename (· + amount) transform

theorem distinguishes_add (amount : Int) (keys : List Int) (key : Int) :
    Distinguishes (· + amount) keys key := by
  intro other _ same
  dsimp only at same
  omega

theorem entries_shift (amount : Int) (transform : ν → μ) (map : Assoc Int ν) :
    (map.shift amount transform).entries =
      map.entries.map fun entry => (entry.1 + amount, transform entry.2) :=
  entries_rename transform fun key _ => distinguishes_add amount map.keys key

theorem values_shift (amount : Int) (transform : ν → μ) (map : Assoc Int ν) :
    (map.shift amount transform).values = map.values.map transform :=
  values_rename transform fun key _ => distinguishes_add amount map.keys key

theorem get?_shift (amount : Int) (transform : ν → μ) (map : Assoc Int ν) (key : Int) :
    (map.shift amount transform).get? (key + amount) = (map.get? key).map transform :=
  get?_rename transform (distinguishes_add amount map.keys key)

theorem sortedEntries_shift (amount : Int) (transform : ν → μ) (map : Assoc Int ν) :
    (map.shift amount transform).sortedEntries =
      map.sortedEntries.map fun entry => (entry.1 + amount, transform entry.2) := by
  rw [sortedEntries, entries_shift, sortedEntries]
  symm
  apply List.map_mergeSort
  intro left _ right _
  simp

theorem sorted_shift (amount : Int) (transform : ν → μ) (map : Assoc Int ν) :
    (map.shift amount transform).sorted = map.sorted.shift amount transform := by
  apply Assoc.ext
  rw [entries_shift]
  exact sortedEntries_shift amount transform map

theorem mapValues_shift {α β : Type} {amount : Int} {transform : ν → μ} {view : Int → ν → α}
    {moved : Int → μ → β} {change : α → β}
    (same : ∀ key value, moved (key + amount) (transform value) = change (view key value))
    (map : Assoc Int ν) :
    (map.shift amount transform).mapValues moved = (map.mapValues view).shift amount change := by
  apply Assoc.ext
  simp [mapValues, entries_shift, same]

theorem tally_shift (amount : Int) (amounts : List (Int × Nat)) :
    tally (amounts.map fun entry => (entry.1 + amount, entry.2)) =
      (tally amounts).shift amount id := by
  induction amounts using List.reverseRecOn with
  | nil => rfl
  | append_singleton amounts entry ih =>
    have total : (((tally amounts).shift amount id).get? (entry.1 + amount)).getD 0 =
        ((tally amounts).get? entry.1).getD 0 := by
      rw [get?_shift, Option.map_id_fun, id]
    rw [List.map_append, List.map_singleton, tally_concat, tally_concat, ih, count, count, total]
    exact insert_rename id _ fun key _ => distinguishes_add amount _ key

end JavaAudit.Assoc
