import JavaAudit.Assoc
import JavaAudit.Decimal.Shortest
import JavaAudit.Text.Quoted
import JavaAudit.Text.Search
import JavaAudit.Toml.Calendar
import JavaAudit.Toml.Fault

/-! Values of TOML files. -/

set_option autoImplicit false

namespace JavaAudit.Toml

inductive Value where
  | truth (value : Bool)
  | integer (value : Int)
  | real (value : Float)
  | text (value : String)
  | date (value : Date)
  | time (value : Clock)
  | moment (value : Moment)
  | array (items : List Value)
  /-- Entries in the order in which their keys first appear. An inline table is written as a
  value. -/
  | table (isInline : Bool) (entries : List (String × Value))

abbrev Table := List (String × Value)

inductive Step where
  | key (name : String)
  | last
  deriving DecidableEq, Repr

namespace Value

def empty : Value :=
  .table false []

def commaList (items : List String) : String :=
  ", ".intercalate items

def numberList (numbers : List Int) : String :=
  commaList (numbers.map fun number => toString number)

mutual

/-- A value as messages show it. -/
def display : Value → String
  | .truth value => if value then "True" else "False"
  | .integer value => toString value
  | .real value => Decimal.general value
  | .text value => Text.quoted value
  | .date value => "datetime.date(" ++ numberList value.fields ++ ")"
  | .time value => "datetime.time(" ++ numberList value.fields ++ ")"
  | .moment value =>
    "datetime.datetime(" ++ numberList (value.date.fields ++ value.clock.fields) ++
      (match value.offset with
        | none => ""
        | some offset => ", tzinfo=" ++ offset) ++ ")"
  | .array items => "[" ++ commaList (displayItems items) ++ "]"
  | .table _ entries => "\x7b" ++ commaList (displayEntries entries) ++ "\x7d"

def displayItems : List Value → List String
  | [] => []
  | item :: rest => item.display :: displayItems rest

def displayEntries : List (String × Value) → List String
  | [] => []
  | (key, value) :: rest => (Text.quoted key ++ ": " ++ value.display) :: displayEntries rest

end

/-- Integers of more decimal digits are not shown. -/
def displayLimit : Nat :=
  Nat.pow 10 Numeral.decimalDigitLimit

mutual

/-- Can messages show the value? -/
def isDisplayable : Value → Bool
  | .integer value => value.natAbs < displayLimit
  | .array items => areDisplayable items
  | .table _ entries => entriesDisplayable entries
  | _ => true

def areDisplayable : List Value → Bool
  | [] => true
  | item :: rest => item.isDisplayable && areDisplayable rest

def entriesDisplayable : List (String × Value) → Bool
  | [] => true
  | (_, value) :: rest => value.isDisplayable && entriesDisplayable rest

end

def typeName : Value → String
  | .truth _ => "bool"
  | .integer _ => "int"
  | .real _ => "float"
  | .text _ => "str"
  | .date _ => "datetime.date"
  | .time _ => "datetime.time"
  | .moment _ => "datetime.datetime"
  | .array _ => "list"
  | .table isInline _ => if isInline then "DynamicInlineTableDict" else "dict"

/-- Do two values have the same type? The items of an array must; dates with and without a time
are of one type. -/
def sameType : Value → Value → Bool
  | .truth _, .truth _ | .integer _, .integer _ | .real _, .real _ | .text _, .text _
    | .time _, .time _ | .array _, .array _ | .table .., .table .. => true
  | .date _, .date _ | .date _, .moment _ | .moment _, .date _ | .moment _, .moment _ => true
  | _, _ => false

def put (level : Value) (key : String) (value : Value) : Value :=
  match level with
  | .table isInline entries =>
    if (entries.lookup key).isSome then
      .table isInline (entries.map fun entry => if entry.1 == key then (key, value) else entry)
    else .table isInline (entries ++ [(key, value)])
  | _ => level

def member (level : Value) (key : String) (absent : Value) : Except Fault Value :=
  match level with
  | .table _ entries => .ok ((entries.lookup key).getD absent)
  | .text value => .error (if Text.contains value key then .textKey else .textAssigned)
  | .array _ => .error .listKey
  | _ => .error (.notSearched level.typeName)

def last (level : Value) : Except Fault Value :=
  match level with
  | .array items =>
    match items.getLast? with
    | some item => .ok item
    | none => .error .listEnds
  | .text value =>
    match value.toList.getLast? with
    | some c => .ok (.text (String.ofList [c]))
    | none => .error .textEnds
  | _ => .error (.notIndexed level.typeName)

def putLast (level item : Value) : Value :=
  match level with
  | .array items => .array (items.dropLast ++ [item])
  | _ => level

def append (level item : Value) : Except Fault Value :=
  match level with
  | .array items => .ok (.array (items ++ [item]))
  | _ => .error (.notAppended level.typeName)

def atSteps {α : Type} (change : Value → Except Fault (Value × α)) :
    List Step → Value → Except Fault (Value × α)
  | [], level => change level
  | .key name :: steps, level => do
    let (inner, result) ← atSteps change steps (← level.member name .empty)
    return (level.put name inner, result)
  | .last :: steps, level => do
    let (inner, result) ← atSteps change steps (← level.last)
    return (level.putLast inner, result)

def isPlain : Value → Bool
  | .array _ | .table .. => false
  | _ => true

/-- No table in the value, at any depth, has a key twice. -/
inductive Distinct : Value → Prop where
  | plain {value : Value} (isPlain : value.isPlain = true) : Distinct value
  | array {items : List Value} (each : ∀ item ∈ items, Distinct item) : Distinct (.array items)
  | table {isInline : Bool} {entries : Table} (keys : (entries.map (·.1)).Nodup)
      (each : ∀ entry ∈ entries, Distinct entry.2) : Distinct (.table isInline entries)

namespace Distinct

theorem item {items : List Value} (distinct : (Value.array items).Distinct) :
    ∀ item ∈ items, item.Distinct := by
  cases distinct with
  | plain isPlain => cases isPlain
  | array each => exact each

theorem nodup {isInline : Bool} {entries : Table}
    (distinct : (Value.table isInline entries).Distinct) : (entries.map (·.1)).Nodup := by
  cases distinct with
  | plain isPlain => cases isPlain
  | table keys => exact keys

theorem entry {isInline : Bool} {entries : Table}
    (distinct : (Value.table isInline entries).Distinct) :
    ∀ entry ∈ entries, entry.2.Distinct := by
  cases distinct with
  | plain isPlain => cases isPlain
  | table _ each => exact each

theorem emptyTable (isInline : Bool) : (Value.table isInline []).Distinct :=
  .table .nil nofun

theorem lookup {isInline : Bool} {entries : Table} {key : String} {value : Value}
    (distinct : (Value.table isInline entries).Distinct)
    (found : entries.lookup key = some value) : value.Distinct :=
  distinct.entry _ ((Assoc.lookup_eq_some_iff_mem distinct.nodup).mp found)

variable {level value item absent : Value}

theorem put (distinct : level.Distinct) (key : String) (given : value.Distinct) :
    (level.put key value).Distinct := by
  cases level with
  | table isInline entries =>
    simp only [Value.put]
    split
    · -- Replacing a value leaves the list of keys as it is.
      have sameKeys : (entries.map fun entry => if entry.1 == key then (key, value) else entry).map
          (·.1) = entries.map (·.1) := by
        rw [List.map_map]
        refine List.map_congr_left fun entry _ => ?_
        by_cases same : entry.1 = key <;> simp [same]
      refine .table (sameKeys ▸ distinct.nodup) fun entry member => ?_
      obtain ⟨old, isOld, rfl⟩ := List.mem_map.mp member
      split
      · exact given
      · exact distinct.entry old isOld
    · next unknown =>
      have fresh : key ∉ entries.map (·.1) := by
        rintro known
        obtain ⟨entry, isEntry, rfl⟩ := List.mem_map.mp known
        exact unknown (List.lookup_isSome_iff.mpr ⟨entry, isEntry, beq_self_eq_true _⟩)
      refine .table ?_ (List.forall_mem_append.mpr ⟨distinct.entry, ?_⟩)
      · exact Assoc.nodup_concat value distinct.nodup fresh
      · exact List.forall_mem_singleton.mpr given
  | _ => exact distinct

theorem putLast (distinct : level.Distinct) (given : item.Distinct) :
    (level.putLast item).Distinct := by
  cases level with
  | array items =>
    have others : ∀ other ∈ items.dropLast, other.Distinct :=
      fun other member => distinct.item other (List.dropLast_subset _ member)
    exact .array (List.forall_mem_append.mpr ⟨others, List.forall_mem_singleton.mpr given⟩)
  | _ => exact distinct

theorem append (distinct : level.Distinct) (given : item.Distinct) :
    Yields Distinct (level.append item) := by
  cases level with
  | array items =>
    have longer := List.forall_mem_append.mpr ⟨distinct.item, List.forall_mem_singleton.mpr given⟩
    exact .ok (.array longer)
  | _ => exact .error

theorem member (distinct : level.Distinct) (key : String) (other : absent.Distinct) :
    Yields Distinct (level.member key absent) := by
  cases level with
  | table isInline entries =>
    refine .ok ?_
    cases found : entries.lookup key with
    | none => exact other
    | some value => exact distinct.lookup found
  | _ => exact .error

theorem last (distinct : level.Distinct) : Yields Distinct level.last := by
  cases level with
  | array items =>
    simp only [Value.last]
    split
    · next item found => exact .ok (distinct.item item (List.mem_of_getLast? found))
    · exact .error
  | text written =>
    simp only [Value.last]
    split
    · exact .ok (.plain rfl)
    · exact .error
  | _ => exact .error

theorem atSteps {α : Type} {change : Value → Except Fault (Value × α)}
    (keeps : ∀ level : Value, level.Distinct → Yields (·.1.Distinct) (change level))
    (steps : List Step) (distinct : level.Distinct) :
    Yields (·.1.Distinct) (level.atSteps change steps) := by
  induction steps generalizing level with
  | nil => exact keeps level distinct
  | cons step steps ih =>
    cases step with
    | key name =>
      refine .bind (distinct.member name (emptyTable false)) fun inner innerDistinct => ?_
      exact .bind (ih innerDistinct) fun changed kept => .ok (distinct.put name kept)
    | last =>
      refine .bind distinct.last fun inner innerDistinct => ?_
      exact .bind (ih innerDistinct) fun changed kept => .ok (distinct.putLast kept)

end Distinct

theorem isDisplayable_integer (number : Int) :
    (integer number).isDisplayable = true ↔ number.natAbs < displayLimit := by
  rw [isDisplayable, decide_eq_true_eq]

end Value

end JavaAudit.Toml
