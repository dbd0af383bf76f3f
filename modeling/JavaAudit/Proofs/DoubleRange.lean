import Mathlib
import JavaAudit.Decimal.Binary

/-! Integers in the range of doubles.

Main statement: an integer has a nearest double exactly if its magnitude is below
`2 ^ 1024 - 2 ^ 970`. That is half a unit in the last place above the largest double, and a half
goes to the even neighbour, which would be `2 ^ 1024`. -/

set_option autoImplicit false

namespace JavaAudit.Decimal

def topExponent : Nat := 1023

/-- The least magnitude that rounds beyond the largest double. -/
def overflowBound : Nat :=
  2 ^ 1024 - 2 ^ 970

theorem overflowBound_eq : overflowBound = (2 ^ 54 - 1) * 2 ^ (topExponent - 53) := by
  decide +kernel

theorem roundDiv_bounds (numerator denominator : Nat) :
    numerator / denominator ≤ roundDiv numerator denominator ∧
      roundDiv numerator denominator ≤ numerator / denominator + 1 := by
  simp only [roundDiv]
  split
  · omega
  · split <;> omega

theorem lt_roundDiv_iff {numerator denominator bound : Nat} (positive : 0 < denominator)
    (odd : bound % 2 = 1) :
    bound < roundDiv numerator denominator ↔ (2 * bound + 1) * denominator ≤ 2 * numerator := by
  have parts := Nat.div_add_mod' numerator denominator
  have small := Nat.mod_lt numerator positive
  have nonneg := Nat.zero_le (numerator % denominator)
  have bounds := roundDiv_bounds numerator denominator
  rcases Nat.lt_trichotomy (numerator / denominator) bound with below | equal | above
  · have next : (numerator / denominator + 1) * denominator ≤ bound * denominator :=
      Nat.mul_le_mul_right _ below
    refine iff_of_false (by omega) ?_
    linarith
  · -- The remainder decides, and a half goes up since the number below is odd.
    have half : bound < roundDiv numerator denominator ↔
        denominator ≤ 2 * (numerator % denominator) := by
      simp only [roundDiv, equal]
      split
      · omega
      · split <;> omega
    rw [equal] at parts
    rw [half]
    constructor <;> intro enough <;> linarith
  · have next : (bound + 1) * denominator ≤ numerator / denominator * denominator :=
      Nat.mul_le_mul_right _ above
    refine iff_of_true (by omega) ?_
    linarith

/-- The fifty-three binary digits to which an integer is rounded. -/
def significand (value : Nat) : Nat :=
  roundDiv (value * 2 ^ leastExponent) (2 ^ (value.log2 + 1022))

theorem significand_bounds {value : Nat} (nonzero : value ≠ 0) :
    2 ^ 52 ≤ significand value ∧ significand value ≤ 2 ^ 53 := by
  have least : leastExponent = 1074 := rfl
  have lower : 52 + (value.log2 + 1022) = value.log2 + leastExponent := by omega
  have upper : value.log2 + 1 + leastExponent = 53 + (value.log2 + 1022) := by omega
  -- Scaled by its own binary order, an integer is between `2 ^ 52` and `2 ^ 53`; rounding may
  -- reach the upper bound.
  have atLeast : 2 ^ 52 ≤ value * 2 ^ leastExponent / 2 ^ (value.log2 + 1022) := by
    rw [Nat.le_div_iff_mul_le (Nat.two_pow_pos _)]
    calc
      2 ^ 52 * 2 ^ (value.log2 + 1022) = 2 ^ value.log2 * 2 ^ leastExponent := by
        rw [← Nat.pow_add, lower, Nat.pow_add]
      _ ≤ value * 2 ^ leastExponent := Nat.mul_le_mul_right _ (Nat.log2_self_le nonzero)
  have below : value * 2 ^ leastExponent / 2 ^ (value.log2 + 1022) < 2 ^ 53 := by
    rw [Nat.div_lt_iff_lt_mul (Nat.two_pow_pos _)]
    calc
      value * 2 ^ leastExponent < 2 ^ (value.log2 + 1) * 2 ^ leastExponent :=
        Nat.mul_lt_mul_of_pos_right Nat.lt_log2_self (Nat.two_pow_pos _)
      _ = 2 ^ 53 * 2 ^ (value.log2 + 1022) := by
        rw [← Nat.pow_add, upper, Nat.pow_add]
  have bounds := roundDiv_bounds (value * 2 ^ leastExponent) (2 ^ (value.log2 + 1022))
  rw [significand]
  omega

def integerBits (value : Nat) : Nat :=
  (value.log2 + 1022) * 2 ^ 52 + significand value

theorem nearestBits_integer {value : Nat} (nonzero : value ≠ 0) :
    nearestBits value 1 =
      if integerBits value < 2047 * 2 ^ 52 then UInt64.ofNat (integerBits value)
      else 0x7FF0000000000000 := by
  have least : leastExponent = 1074 := rfl
  have shift : value.log2 + leastExponent - (Nat.log2 1 + 52) = value.log2 + 1022 := by
    have one : Nat.log2 1 = 0 := by decide
    omega
  have aligned : ¬value * 2 ^ leastExponent < 2 ^ (value.log2 + 1022 + 52) := by
    have total : value.log2 + 1022 + 52 = value.log2 + leastExponent := by omega
    rw [total, Nat.pow_add, Nat.not_lt]
    exact Nat.mul_le_mul_right _ (Nat.log2_self_le nonzero)
  have normal : ¬significand value < 2 ^ 52 := Nat.not_lt.mpr (significand_bounds nonzero).1
  simp only [nearestBits, Nat.shiftLeft_eq, if_neg nonzero, shift, Nat.one_mul, if_neg aligned]
  rw [← significand, if_neg normal, integerBits]

/-- Of the integers with the largest exponent, those round up to the next power of two that are at
least half a unit above the largest double. -/
theorem lt_significand_iff {value : Nat} (isTop : value.log2 = topExponent) :
    2 ^ 53 - 1 < significand value ↔ (2 ^ 54 - 1) * 2 ^ (topExponent - 53) ≤ value := by
  have exponents : topExponent + 1022 = topExponent - 53 + (leastExponent + 1) := by decide
  have denominator : 2 ^ (value.log2 + 1022) =
      2 ^ (topExponent - 53) * (2 * 2 ^ leastExponent) := by
    rw [isTop, exponents, Nat.pow_add, Nat.pow_succ']
  have positive : 0 < 2 * 2 ^ leastExponent := Nat.mul_pos Nat.two_pos (Nat.two_pow_pos _)
  have half : 2 * (2 ^ 53 - 1) + 1 = 2 ^ 54 - 1 := rfl
  rw [significand, lt_roundDiv_iff (Nat.two_pow_pos _) rfl, half, denominator, ← Nat.mul_assoc,
    Nat.mul_left_comm 2 value, Nat.mul_le_mul_right_iff positive]

theorem integerBits_lt_iff {value : Nat} (nonzero : value ≠ 0) :
    integerBits value < 2047 * 2 ^ 52 ↔ value < overflowBound := by
  obtain ⟨enough, notMore⟩ := significand_bounds nonzero
  have atLeast := Nat.log2_self_le nonzero
  have below : value < 2 ^ (value.log2 + 1) := Nat.lt_log2_self
  have top : topExponent = 1023 := rfl
  have exponents : 53 + (topExponent - 53) = topExponent := by decide
  have power : 2 ^ topExponent = 2 ^ 53 * 2 ^ (topExponent - 53) := by
    rw [← Nat.pow_add, exponents]
  rw [overflowBound_eq, integerBits]
  rcases Nat.lt_trichotomy value.log2 topExponent with smaller | equal | larger
  · have bounded : 2 ^ (value.log2 + 1) ≤ 2 ^ topExponent :=
      Nat.pow_le_pow_right Nat.two_pos smaller
    refine iff_of_true ?_ ?_ <;> omega
  · -- One more than the largest significand has the next exponent.
    have rounded := lt_significand_iff equal
    omega
  · obtain ⟨more, isMore⟩ := Nat.exists_eq_add_of_lt larger
    have bounded : 2 ^ topExponent ≤ 2 ^ (topExponent + more) :=
      Nat.pow_le_pow_right Nat.two_pos (Nat.le_add_right _ _)
    rw [isMore, Nat.pow_succ'] at atLeast
    refine iff_of_false ?_ ?_ <;> omega

section

open Float.Model Float.Model.UnpackedFloat

theorem isInf_unpack (bits : BitVec 64) :
    (UnpackedFloat.unpack .binary64 bits).isInf = true ↔
      @unpackExponent .binary64 bits = -1#11 ∧ @unpackMantissa .binary64 bits = 0#52 := by
  -- Infinities have the largest exponent and no further digits.
  simp only [UnpackedFloat.unpack]
  split
  · split <;> simp_all [UnpackedFloat.isInf]
  · split
    · split <;> simp_all [UnpackedFloat.isInf]
    · simp_all [UnpackedFloat.isInf]

def Fits (number : UnpackedFloat) : Prop :=
  ∀ sign mantissa exponent positive, number = .finite sign mantissa exponent positive →
    (exponent + 1023 + 52).toNat < 2047

theorem fits_unpack (bits : BitVec 64) : Fits (UnpackedFloat.unpack .binary64 bits) := by
  intro sign mantissa exponent positive same
  have bounded : (@unpackExponent .binary64 bits).toNat < 2048 :=
    (@unpackExponent .binary64 bits).isLt
  have bias : (Format.binary64.exponentBias : Int) = 1023 := rfl
  simp only [UnpackedFloat.unpack] at same
  split at same
  · -- The last exponent is that of infinities and undefined numbers.
    split at same <;> cases same
  · next notLast =>
    have notLargest : (@unpackExponent .binary64 bits).toNat ≠ 2047 := fun largest =>
      notLast (BitVec.eq_of_toNat_eq largest)
    split at same
    · next zero =>
      split at same
      · cases same
      · cases same
        rw [zero, bias]
        decide
    · cases same
      rw [bias]
      omega

theorem isInf_unpack_pack {number : UnpackedFloat} (fits : Fits number) :
    (UnpackedFloat.unpack .binary64 (UnpackedFloat.pack .binary64 number)).isInf =
      number.isInf := by
  rw [Bool.eq_iff_iff, isInf_unpack]
  cases number with
  | notANumber => simp [UnpackedFloat.pack, packedNaN, UnpackedFloat.isInf]
  | infinity sign => simp [UnpackedFloat.pack, packedInfinity, UnpackedFloat.isInf]
  | zero sign => simp [UnpackedFloat.pack, packedZero, UnpackedFloat.isInf]
  | finite sign mantissa exponent positive =>
    -- A finite number keeps its exponent, which is not the one of infinities.
    have small : (exponent + 1023 + 52).toNat < 2047 := fits _ _ _ _ rfl
    have bounded : ¬2 ^ 11 ≤ (exponent + Format.binary64.exponentBias + (52 : Nat)).toNat + 1 := by
      change ¬2 ^ 11 ≤ (exponent + 1023 + 52).toNat + 1
      omega
    refine iff_of_false ?_ (by simp [UnpackedFloat.isInf])
    rintro ⟨largest, _⟩
    simp only [UnpackedFloat.pack, if_neg bounded] at largest
    split at largest
    · rw [unpackExponent_packComponents] at largest
      have same := congrArg BitVec.toNat largest
      change (exponent + 1023 + 52).toNat % 2048 = 2047 at same
      omega
    · rw [unpackExponent_packComponents] at largest
      cases largest

theorem isInf_ofBits (bits : UInt64) :
    (Float.ofBits bits).isInf = (UnpackedFloat.unpack .binary64 bits.toBitVec).isInf :=
  isInf_unpack_pack (fits_unpack bits.toBitVec)

theorem isInf_neg (number : Float) : (-number).isInf = number.isInf := by
  have fits := fits_unpack number.toModel.toBits.toBitVec
  have flipped : Fits number.toModel.unpack.neg := by
    intro sign mantissa exponent positive same
    unfold Float.Model.unpack at same
    generalize UnpackedFloat.unpack .binary64 number.toModel.toBits.toBitVec = original at *
    cases original <;> cases same
    exact fits _ _ _ _ rfl
  refine (isInf_unpack_pack flipped).trans ?_
  change _ = number.toModel.unpack.isInf
  cases number.toModel.unpack <;> rfl

theorem isInf_ofBits_of_lt {bits : UInt64} (below : bits.toNat < 2047 * 2 ^ 52) :
    (Float.ofBits bits).isInf = false := by
  rw [isInf_ofBits, ← Bool.not_eq_true, isInf_unpack]
  rintro ⟨largest, _⟩
  have exponent : (@unpackExponent .binary64 bits.toBitVec).toNat =
      bits.toNat / 2 ^ 52 % 2 ^ 11 := by
    simp [unpackExponent, Nat.shiftRight_eq_div_pow]
  rw [largest] at exponent
  change 2047 = bits.toNat / 2 ^ 52 % 2 ^ 11 at exponent
  have digits : 2 ^ 52 = 4503599627370496 := rfl
  omega

end

theorem isInf_nearest (negative : Bool) (value : Nat) :
    (nearest negative value 1).isInf = true ↔ overflowBound ≤ value := by
  have magnitude : (nearest negative value 1).isInf =
      (Float.ofBits (nearestBits value 1)).isInf := by
    cases negative
    · rfl
    · exact isInf_neg _
  rw [magnitude]
  -- Zero has no leading digit, so it is rounded apart from the other integers.
  by_cases zero : value = 0
  · subst zero
    have positive : 0 < overflowBound := by
      rw [overflowBound_eq]
      exact Nat.mul_pos (by decide) (Nat.two_pow_pos _)
    refine iff_of_false ?_ (by omega)
    decide +kernel
  · rw [nearestBits_integer zero]
    split
    · next fits =>
      have small : integerBits value < 2 ^ 64 := by
        have digits : 2 ^ 52 = 4503599627370496 := rfl
        omega
      have bits : (UInt64.ofNat (integerBits value)).toNat = integerBits value :=
        UInt64.toNat_ofNat_of_lt' small
      rw [isInf_ofBits_of_lt (by rw [bits]; exact fits)]
      refine iff_of_false Bool.false_ne_true ?_
      exact Nat.not_le.mpr ((integerBits_lt_iff zero).mp fits)
    · next overflows =>
      refine iff_of_true (by decide +kernel) ?_
      exact Nat.not_lt.mp (mt (integerBits_lt_iff zero).mpr overflows)

/-- No double is near an integer from the bound on. -/
theorem ofInt?_eq_none_iff (value : Int) : ofInt? value = none ↔ overflowBound ≤ value.natAbs := by
  rw [ofInt?, ← isInf_nearest (value < 0)]
  simp

end JavaAudit.Decimal
