import Mathlib.Algebra.Order.Monoid.Unbundled.Pow
import Mathlib.Algebra.Order.Ring.Nat
import JavaAudit.Proofs.DoubleRange
import JavaAudit.Toml.Value

/-! Numbers that messages can show.

A value can be shown exactly if no integer in it, at any depth, has more decimal digits than the
limit. Numerals are held to the same limit, so an integer that was read from a text can always be
shown, and so can every integer that is near a double. -/

set_option autoImplicit false

namespace JavaAudit

namespace Numeral

theorem ofDigits_lt {base : Nat} {digits : List Nat} (small : ∀ digit ∈ digits, digit < base) :
    ofDigits base digits < base ^ digits.length := by
  -- Generalized to the value of the digits that were read before.
  have from_value : ∀ value, digits.foldl (fun value digit => value * base + digit) value <
      (value + 1) * base ^ digits.length := by
    induction digits with
    | nil => simp
    | cons digit rest ih =>
      intro value
      have first : digit < base := small digit List.mem_cons_self
      have others := ih (fun other member => small other (List.mem_cons_of_mem _ member))
        (value * base + digit)
      rw [List.foldl_cons, List.length_cons, Nat.pow_succ']
      calc
        _ < (value * base + digit + 1) * base ^ rest.length := others
        _ ≤ ((value + 1) * base) * base ^ rest.length := by
          apply Nat.mul_le_mul_right
          rw [Nat.add_mul, Nat.one_mul]
          omega
        _ = (value + 1) * (base * base ^ rest.length) := Nat.mul_assoc _ _ _
  simpa [ofDigits] using from_value 0

theorem nat?_lt {text : List Char} {value : Nat} (read : nat? 10 text = some value) :
    value < Toml.Value.displayLimit := by
  obtain ⟨digits, digitsRead, read⟩ := Option.bind_eq_some_iff.mp read
  split at read
  · cases read
  · next notLong =>
    cases read
    have short : digits.length ≤ decimalDigitLimit := by
      simpa using notLong
    unfold Toml.Value.displayLimit
    -- The limit is made a variable, so that nothing computes its power of ten.
    generalize decimalDigitLimit = limit at short ⊢
    exact Nat.lt_of_lt_of_le (ofDigits_lt (lt_of_mem_digits? digitsRead))
      (Nat.pow_le_pow_right (by decide) short)

theorem int?_natAbs_lt {text : List Char} {value : Int} (read : int? 10 text = some value) :
    value.natAbs < Toml.Value.displayLimit := by
  obtain ⟨_, magnitudeRead⟩ := natAbs_of_signed? read
  exact nat?_lt magnitudeRead

end Numeral

/-- Every integer near a double has few digits. -/
theorem Decimal.overflowBound_le : overflowBound ≤ Toml.Value.displayLimit := by
  decide +kernel

namespace Toml.Value

/-- The integer stands in the value, at any depth. -/
inductive Holds : Value → Int → Prop where
  | integer (number : Int) : Holds (.integer number) number
  | item {items : List Value} {item : Value} {number : Int} :
      item ∈ items → Holds item number → Holds (.array items) number
  | entry {isInline : Bool} {entries : List (String × Value)} {key : String} {value : Value}
      {number : Int} :
      (key, value) ∈ entries → Holds value number → Holds (.table isInline entries) number

mutual

/-- A value can be shown exactly if it holds no integer with too many digits. -/
theorem isDisplayable_iff : ∀ value : Value, value.isDisplayable = true ↔
    ∀ number, value.Holds number → number.natAbs < displayLimit
  | .integer number => by
    rw [isDisplayable_integer]
    constructor
    · rintro few _ ⟨⟩
      exact few
    · intro few
      exact few number (.integer number)
  | .array items => by
    rw [isDisplayable, areDisplayable_iff items]
    constructor
    · rintro few number (_ | ⟨member, holds⟩)
      exact few _ member number holds
    · intro few item member number holds
      exact few number (.item member holds)
  | .table isInline entries => by
    rw [isDisplayable, entriesDisplayable_iff entries]
    constructor
    · rintro few number (_ | _ | ⟨member, holds⟩)
      exact few _ member number holds
    · intro few entry member number holds
      exact few number (.entry member holds)
  | .truth _ | .real _ | .text _ | .date _ | .time _ | .moment _ =>
    iff_of_true rfl (by rintro _ ⟨⟩)

theorem areDisplayable_iff : ∀ items : List Value, areDisplayable items = true ↔
    ∀ item ∈ items, ∀ number, item.Holds number → number.natAbs < displayLimit
  | [] => iff_of_true rfl (by simp)
  | item :: rest => by
    rw [areDisplayable, Bool.and_eq_true, isDisplayable_iff item, areDisplayable_iff rest,
      List.forall_mem_cons]

theorem entriesDisplayable_iff : ∀ entries : List (String × Value),
    entriesDisplayable entries = true ↔
      ∀ entry ∈ entries, ∀ number, entry.2.Holds number → number.natAbs < displayLimit
  | [] => iff_of_true rfl (by simp)
  | (key, value) :: rest => by
    rw [entriesDisplayable, Bool.and_eq_true, isDisplayable_iff value, entriesDisplayable_iff rest,
      List.forall_mem_cons]

end

theorem entriesDisplayable_iff_forall (entries : List (String × Value)) :
    entriesDisplayable entries = true ↔ ∀ entry ∈ entries, entry.2.isDisplayable = true := by
  simp only [entriesDisplayable_iff, isDisplayable_iff]

end Toml.Value

end JavaAudit
