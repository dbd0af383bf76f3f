/-! Classes of characters, as tables of code points. -/

set_option autoImplicit false

namespace JavaAudit.Text

structure Interval where
  first : Nat
  last : Nat

def Interval.contains (interval : Interval) (c : Char) : Bool :=
  interval.first ≤ c.toNat && c.toNat ≤ interval.last

structure Progression where
  first : Nat
  last : Nat
  step : Nat

def Progression.contains (progression : Progression) (c : Char) : Bool :=
  progression.first ≤ c.toNat && c.toNat ≤ progression.last &&
    (c.toNat - progression.first) % progression.step == 0

def blankIntervals : List Interval := [
  ⟨0x9, 0xD⟩, ⟨0x1C, 0x20⟩, ⟨0x85, 0x85⟩, ⟨0xA0, 0xA0⟩, ⟨0x1680, 0x1680⟩, ⟨0x2000, 0x200A⟩,
  ⟨0x2028, 0x2029⟩, ⟨0x202F, 0x202F⟩, ⟨0x205F, 0x205F⟩, ⟨0x3000, 0x3000⟩]

def isBlank (c : Char) : Bool :=
  blankIntervals.any (·.contains c)

def trimLeft (text : List Char) : List Char :=
  text.dropWhile isBlank

def trimRight (text : List Char) : List Char :=
  (text.reverse.dropWhile isBlank).reverse

def trim (text : List Char) : List Char :=
  trimRight (trimLeft text)

/-- The zeros of the decimal scripts; the nine code points after each are its other digits. -/
def decimalZeros : List Nat := [
  0x30, 0x660, 0x6F0, 0x7C0, 0x966, 0x9E6, 0xA66, 0xAE6, 0xB66, 0xBE6, 0xC66, 0xCE6, 0xD66,
  0xDE6, 0xE50, 0xED0, 0xF20, 0x1040, 0x1090, 0x17E0, 0x1810, 0x1946, 0x19D0, 0x1A80, 0x1A90,
  0x1B50, 0x1BB0, 0x1C40, 0x1C50, 0xA620, 0xA8D0, 0xA900, 0xA9D0, 0xA9F0, 0xAA50, 0xABF0, 0xFF10,
  0x104A0, 0x10D30, 0x11066, 0x110F0, 0x11136, 0x111D0, 0x112F0, 0x11450, 0x114D0, 0x11650,
  0x116C0, 0x11730, 0x118E0, 0x11950, 0x11C50, 0x11D50, 0x11DA0, 0x16A60, 0x16AC0, 0x16B50,
  0x1D7CE, 0x1D7D8, 0x1D7E2, 0x1D7EC, 0x1D7F6, 0x1E140, 0x1E2F0, 0x1E950, 0x1FBF0]

def decimalValue? (c : Char) : Option Nat :=
  (decimalZeros.find? fun base => base ≤ c.toNat && c.toNat < base + 10).map (c.toNat - ·)

/-- Digits that take no part in positional notation, such as superscripts and circled digits. -/
def digitFormIntervals : List Interval := [
  ⟨0xB2, 0xB3⟩, ⟨0xB9, 0xB9⟩, ⟨0x1369, 0x1371⟩, ⟨0x19DA, 0x19DA⟩, ⟨0x2070, 0x2070⟩,
  ⟨0x2074, 0x2079⟩, ⟨0x2080, 0x2089⟩, ⟨0x2460, 0x2468⟩, ⟨0x2474, 0x247C⟩, ⟨0x2488, 0x2490⟩,
  ⟨0x24EA, 0x24EA⟩, ⟨0x24F5, 0x24FD⟩, ⟨0x24FF, 0x24FF⟩, ⟨0x2776, 0x277E⟩, ⟨0x2780, 0x2788⟩,
  ⟨0x278A, 0x2792⟩, ⟨0x10A40, 0x10A43⟩, ⟨0x10E60, 0x10E68⟩, ⟨0x11052, 0x1105A⟩,
  ⟨0x1F100, 0x1F10A⟩]

def isDigit (c : Char) : Bool :=
  (decimalValue? c).isSome || digitFormIntervals.any (·.contains c)

theorem of_decimalValue? {c : Char} {value : Nat} (found : decimalValue? c = some value) :
    value < 10 ∧ ∃ origin ∈ decimalZeros, c.toNat = origin + value := by
  obtain ⟨origin, isZero, rfl⟩ := Option.map_eq_some_iff.mp found
  have inScript := List.find?_some isZero
  rw [Bool.and_eq_true, decide_eq_true_eq, decide_eq_true_eq] at inScript
  exact ⟨by omega, origin, List.mem_of_find?_eq_some isZero, by omega⟩

theorem decimalValue?_ofNat :
    ∀ value < 10, decimalValue? (Char.ofNat (48 + value)) = some value := by
  decide

theorem of_isBlank {c : Char} (blank : isBlank c = true) :
    decimalValue? c = none ∧ (c.toNat < 48 ∨ 122 < c.toNat) := by
  obtain ⟨interval, isInterval, inside⟩ := List.any_eq_true.mp blank
  rw [Interval.contains, Bool.and_eq_true, decide_eq_true_eq, decide_eq_true_eq] at inside
  constructor
  · refine Option.eq_none_iff_forall_ne_some.mpr fun value found => ?_
    obtain ⟨small, origin, isZero, place⟩ := of_decimalValue? found
    have apart : ∀ origin ∈ decimalZeros, ∀ interval ∈ blankIntervals,
        interval.last < origin ∨ origin + 10 ≤ interval.first := by
      decide
    have disjoint := apart origin isZero interval isInterval
    omega
  · have apart : ∀ interval ∈ blankIntervals, interval.last < 48 ∨ 122 < interval.first := by
      decide
    have disjoint := apart interval isInterval
    omega

end JavaAudit.Text
