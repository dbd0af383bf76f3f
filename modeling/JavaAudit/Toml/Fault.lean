/-! What can be wrong with a TOML file. -/

set_option autoImplicit false

namespace JavaAudit

/-- Whatever the computation returns has the property. -/
def Yields {ε α : Type} (property : α → Prop) (computation : Except ε α) : Prop :=
  ∀ value, computation = .ok value → property value

namespace Yields

variable {ε α β : Type} {property : α → Prop} {target : β → Prop}

theorem ok {value : α} (holds : property value) : Yields property (.ok value : Except ε α) := by
  rintro _ ⟨⟩
  exact holds

theorem error {fault : ε} : Yields property (.error fault : Except ε α) := nofun

theorem bind {computation : Except ε α} {next : α → Except ε β}
    (first : Yields property computation)
    (further : ∀ value, property value → Yields target (next value)) :
    Yields target (computation >>= next) := by
  cases computation with
  | error fault => exact error
  | ok value => exact further value (first value rfl)

theorem bind_any {computation : Except ε α} {next : α → Except ε β}
    (further : ∀ value, Yields target (next value)) : Yields target (computation >>= next) :=
  have anything : Yields (fun _ => True) computation := fun _ _ => trivial
  bind anything fun value _ => further value

theorem foldlM {step : α → β → Except ε α} (keeps : ∀ value item, property value →
      Yields property (step value item)) (items : List β) {start : α} (holds : property start) :
    Yields property (items.foldlM step start) := by
  induction items generalizing start with
  | nil => exact ok holds
  | cons item rest ih =>
    rw [List.foldlM_cons]
    exact bind (keeps start item holds) fun value kept => ih kept

end Yields

namespace Toml

/-- Why a file cannot be read. A malformed file is told apart from a file that the reader has no
rule for: its user can go on after the first, and not after the others. -/
inductive Fault where
  | malformed
  /-- A character is asked for beyond the end of a text. -/
  | textEnds
  /-- An item is asked for beyond the end of a list. -/
  | listEnds
  /-- The code of a character is no machine integer. -/
  | codeTooLarge
  /-- A text over several lines has an empty key. -/
  | keylessText
  /-- A value of the named type is taken for a collection. -/
  | notIndexed (type : String)
  | notSearched (type : String)
  | notAppended (type : String)
  /-- A text is taken for a table. -/
  | textKey
  | textAssigned
  /-- A list is taken for a table. -/
  | listKey
  deriving DecidableEq, Repr

def Fault.message : Fault → String
  | .malformed => "malformed TOML"
  | .textEnds => "string index out of range"
  | .listEnds => "list index out of range"
  | .codeTooLarge => "Python int too large to convert to C int"
  | .keylessText => "cannot access local variable 'value' where it is not associated with a value"
  | .notIndexed type => "'" ++ type ++ "' object is not subscriptable"
  | .notSearched type => "argument of type '" ++ type ++ "' is not iterable"
  | .notAppended type => "'" ++ type ++ "' object has no attribute 'append'"
  | .textKey => "string indices must be integers, not 'str'"
  | .textAssigned => "'str' object does not support item assignment"
  | .listKey => "list indices must be integers or slices, not str"

def require {α : Type} : Option α → Except Fault α
  | some value => .ok value
  | none => .error .malformed

theorem yields_require {α : Type} {property : α → Prop} {option : Option α}
    (holds : ∀ value, option = some value → property value) : Yields property (require option) := by
  cases option with
  | none => exact .error
  | some value => exact .ok (holds value rfl)

end Toml

end JavaAudit
