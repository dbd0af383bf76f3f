import Mathlib.Data.Int.Bitwise
import Mathlib.Data.Nat.Digits.Lemmas
import JavaAudit.Proofs.CategoryFindings
import JavaAudit.Proofs.IntegerLiterals

/-! Divisions by powers of two.

A literal has 32 or 64 bits, and its value is that of two's complement: a literal that is not
decimal may set the sign bit and is negative then. The check takes a divisor for the number that
its digits denote. Main statement: a division by a literal is reported exactly if the value of the
literal is a power of two above one, unless the sign bit is the only bit of the literal, whose value
is negative and which is reported nevertheless. -/

set_option autoImplicit false

namespace JavaAudit

namespace IntLiteral

theorem isPowerOfTwo_iff {value : Int} :
    isPowerOfTwo value = true ↔ ∃ exponent : Nat, value = 2 ^ exponent := by
  unfold isPowerOfTwo
  split
  · next predecessor =>
    rw [beq_iff_eq]
    have bits : (predecessor + 1) &&& predecessor = 0 ↔ (predecessor + 1).isPowerOfTwo :=
      Nat.and_sub_one_eq_zero_iff_isPowerOfTwo (Nat.succ_ne_zero predecessor)
    rw [bits, Nat.isPowerOfTwo]
    apply exists_congr
    intro exponent
    rw [Int.ofNat_eq_natCast]
    norm_cast
  · next notPositive =>
    simp only [Bool.false_eq_true, false_iff, not_exists]
    -- Powers of two are positive, and the others have no predecessor to compare with.
    intro exponent same
    obtain ⟨predecessor, positive⟩ := Nat.exists_eq_succ_of_ne_zero (Nat.two_pow_pos exponent).ne'
    apply notPositive predecessor
    rw [same, Int.ofNat_eq_natCast, ← positive]
    norm_cast

theorem land_pred_negSucc_ne_zero (number : Nat) :
    (Int.negSucc number).land (Int.negSucc number - 1) ≠ 0 := by
  -- In two's complement, a negative number and its predecessor share their sign bits.
  have predecessor : Int.negSucc number - 1 = Int.negSucc (number + 1) := rfl
  rw [predecessor, Int.land]
  exact Int.negSucc_ne_zero _

theorem land_pred_succ (predecessor : Nat) :
    (Int.ofNat (predecessor + 1)).land (Int.ofNat (predecessor + 1) - 1) =
      ((predecessor + 1) &&& predecessor : Nat) := by
  have same : Int.ofNat (predecessor + 1) - 1 = Int.ofNat predecessor := by simp
  rw [same, Int.land]

theorem isPowerOfTwo_eq_land (value : Int) :
    isPowerOfTwo value = (decide (0 < value) && value.land (value - 1) == 0) := by
  match value with
  | .ofNat 0 => rfl
  | .ofNat (predecessor + 1) =>
    have positive : 0 < Int.ofNat (predecessor + 1) := Int.natCast_pos.mpr (Nat.succ_pos _)
    rw [isPowerOfTwo, land_pred_succ, decide_eq_true positive, Bool.true_and, Bool.eq_iff_iff,
      beq_iff_eq, beq_iff_eq, Int.natCast_eq_zero]
  | .negSucc _ => rfl

theorem land_pred_eq_zero_iff (value : Int) :
    value.land (value - 1) = 0 ↔ value = 0 ∨ isPowerOfTwo value = true := by
  rw [isPowerOfTwo_eq_land, Bool.and_eq_true, decide_eq_true_iff, beq_iff_eq]
  constructor
  · intro apart
    match value with
    | .ofNat 0 => exact .inl rfl
    | .ofNat (predecessor + 1) => exact .inr ⟨Int.natCast_pos.mpr (Nat.succ_pos _), apart⟩
    | .negSucc number => exact absurd apart (land_pred_negSucc_ne_zero number)
  · rintro (rfl | ⟨_, apart⟩)
    · decide +kernel
    · exact apart

/-- A number is recognized by its sign and by the bits that it shares with its predecessor, both
in two's complement without a bound on their length. Only zero and the powers of two share none, so
the numbers recognized are the powers of two. -/
theorem powers_of_two_recognized (value : Int) :
    isPowerOfTwo value = (decide (0 < value) && value.land (value - 1) == 0) ∧
      (value.land (value - 1) = 0 ↔ value = 0 ∨ ∃ exponent : Nat, value = 2 ^ exponent) ∧
      (isPowerOfTwo value = true ↔ ∃ exponent : Nat, value = 2 ^ exponent) := by
  refine ⟨isPowerOfTwo_eq_land value, ?_, isPowerOfTwo_iff⟩
  rw [land_pred_eq_zero_iff, isPowerOfTwo_iff]

theorem isReported_iff {value : Int} :
    (1 < value ∧ isPowerOfTwo value = true) ↔
      ∃ exponent : Nat, 1 ≤ exponent ∧ value = 2 ^ exponent := by
  -- Above one, powers of two have a positive exponent.
  rw [isPowerOfTwo_iff]
  constructor
  · rintro ⟨above, exponent, rfl⟩
    refine ⟨exponent, Nat.one_le_iff_ne_zero.mpr ?_, rfl⟩
    rintro rfl
    exact absurd above (by decide)
  · rintro ⟨exponent, positive, rfl⟩
    exact ⟨one_lt_pow₀ (by decide) (by omega), exponent, rfl⟩

theorem Spells.pow_length_le {text : List Char} {digits : List Nat}
    (spells : Spells .decimal text digits) :
    10 ^ digits.length ≤ 10 * max 1 (Nat.ofDigits 10 digits.reverse) := by
  cases spells with
  | zero => decide
  | @decimal _ first values _ nonzero =>
    have leading : (first :: values).reverse.getLast (by simp) ≠ 0 := by
      rwa [List.getLast_reverse]
    have atMost := Nat.pow_length_le_mul_ofDigits (b := 8) _ leading
    rw [List.length_reverse] at atMost
    exact atMost.trans (Nat.mul_le_mul_left 10 (le_max_right _ _))

namespace Literal

def width (literal : Literal) : Nat :=
  if literal.isLong then 64 else 32

/-- The literal fits its type; a decimal one has to leave the sign bit alone. -/
def IsValid (literal : Literal) : Prop :=
  literal.value < 2 ^ (if literal.form = .decimal then literal.width - 1 else literal.width)

instance (literal : Literal) : Decidable literal.IsValid :=
  inferInstanceAs (Decidable (_ < _))

/-- The number that a literal stands for, in two's complement. -/
def denoted (literal : Literal) : Int :=
  (BitVec.ofNat literal.width literal.value).toInt

variable {literal : Literal}

theorem width_pos (literal : Literal) : 0 < literal.width := by
  unfold width
  split <;> decide

theorem IsValid.lt (valid : literal.IsValid) : literal.value < 2 ^ literal.width := by
  unfold IsValid at valid
  split at valid
  · exact valid.trans_le (Nat.pow_le_pow_right (by decide) (Nat.sub_le _ _))
  · exact valid

theorem IsValid.denoted_eq (valid : literal.IsValid) :
    literal.denoted = if literal.value < 2 ^ (literal.width - 1) then (literal.value : Int)
      else literal.value - 2 ^ literal.width := by
  -- The sign bit takes the whole range off.
  have halves : 2 ^ literal.width = 2 * 2 ^ (literal.width - 1) := by
    rw [← Nat.pow_succ', Nat.succ_eq_add_one, Nat.sub_add_cancel literal.width_pos]
  have inHalf : 2 * literal.value < 2 ^ literal.width ↔
      literal.value < 2 ^ (literal.width - 1) := by
    omega
  rw [denoted, BitVec.toInt_eq_toNat_cond, BitVec.toNat_ofNat, Nat.mod_eq_of_lt valid.lt]
  simp only [inHalf]
  push_cast
  rfl

/-- Of the powers of two that fit a literal only the one of the sign bit is not its value. -/
theorem IsValid.denoted_eq_pow_iff (valid : literal.IsValid) :
    (∃ exponent : Nat, 1 ≤ exponent ∧ literal.denoted = 2 ^ exponent) ↔
      (∃ exponent : Nat, 1 ≤ exponent ∧ (literal.value : Int) = 2 ^ exponent) ∧
        literal.value ≠ 2 ^ (literal.width - 1) := by
  rw [valid.denoted_eq]
  split
  · next small => exact ⟨fun power => ⟨power, small.ne⟩, fun power => power.1⟩
  · next large =>
    -- The sign bit is set: the value is negative, and no power but its own reaches that far.
    have fits := valid.lt
    constructor
    · rintro ⟨exponent, _, same⟩
      have positive : (0 : Int) < 2 ^ exponent := by positivity
      have negative : (literal.value : Int) - 2 ^ literal.width < 0 := by
        have cast : (literal.value : Int) < 2 ^ literal.width := by exact_mod_cast fits
        omega
      omega
    · rintro ⟨⟨exponent, _, same⟩, notSign⟩
      have power : literal.value = 2 ^ exponent := by exact_mod_cast same
      rw [power] at large fits notSign
      have below : exponent < literal.width := (Nat.pow_lt_pow_iff_right (by decide)).mp fits
      have above : literal.width - 1 ≤ exponent :=
        (Nat.pow_le_pow_iff_right (by decide)).mp (Nat.not_lt.mp large)
      have sign : exponent = literal.width - 1 := by omega
      exact absurd (congrArg _ sign) notSign

theorem IsValid.short (valid : literal.IsValid) (decimal : literal.form = .decimal) :
    literal.digits.length ≤ Numeral.decimalDigitLimit := by
  have fits : literal.value < 2 ^ 64 := by
    apply valid.lt.trans_le
    apply Nat.pow_le_pow_right (by decide)
    unfold width
    split <;> decide
  have spells := literal.spells
  rw [value, decimal] at fits
  rw [decimal] at spells
  -- Twenty digits are enough for 64 bits.
  have digits : 10 ^ literal.digits.length < 10 ^ 21 := by
    have atMost := spells.pow_length_le
    change Nat.ofDigits 10 literal.digits.reverse < 2 ^ 64 at fits
    omega
  have few := (Nat.pow_lt_pow_iff_right (by decide)).mp digits
  have limit : 21 ≤ Numeral.decimalDigitLimit := by decide
  omega

theorem IsValid.value? (valid : literal.IsValid) {text : String}
    (written : text.toList = literal.text) :
    IntLiteral.value? text = some (literal.value : Int) := by
  rw [value?_eq_some_iff, written]
  exact literal.readAs valid.short

end Literal

end IntLiteral

open IntLiteral

/-- Is the node a division by a literal that is read as a power of two above one? -/
def Site.dividesByPower (site : Site) : Bool :=
  site.kind == .binaryExpression && site.childText .operator == "/" &&
    (site.child? .right).any fun divisor => divisor.kind.isIntegerLiteral &&
      (value? divisor.text).any fun value => 1 < value && isPowerOfTwo value

theorem Site.dividesByPower_eq_true_iff {site : Site} :
    site.dividesByPower = true ↔
      (site.kind = .binaryExpression ∧ site.childText .operator = "/") ∧
        ∃ divisor, site.child? .right = some divisor ∧ divisor.kind.isIntegerLiteral = true ∧
          ∃ value, value? divisor.text = some value ∧ 1 < value ∧ isPowerOfTwo value = true := by
  simp only [dividesByPower, Bool.and_eq_true, beq_iff_eq, Option.any_eq_true, decide_eq_true_eq]

/-- The node is a division, and the literal is its divisor. -/
structure Site.DividesBy (site : Site) (literal : Literal) : Prop where
  isBinary : site.kind = .binaryExpression
  isDivision : site.childText .operator = "/"
  divisor : ∃ divisor, site.child? .right = some divisor ∧
    divisor.kind.isIntegerLiteral = true ∧ divisor.text.toList = literal.text

instance (site : Site) (literal : Literal) : Decidable (site.DividesBy literal) :=
  decidable_of_iff ((site.kind = .binaryExpression ∧ site.childText .operator = "/") ∧
      (site.child? .right).any (fun divisor =>
        divisor.kind.isIntegerLiteral && divisor.text.toList == literal.text) = true) <| by
    simp only [Option.any_eq_true, Bool.and_eq_true, beq_iff_eq]
    exact ⟨fun divides => ⟨divides.1.1, divides.1.2, divides.2⟩,
      fun divides => ⟨⟨divides.1, divides.2⟩, divides.3⟩⟩

namespace Optimization

def divisionFinding (site : Site) : Finding Category :=
  ⟨.divisionOptimization, "Division by power of 2 can be optimized", site.line, site.render, .low⟩

theorem division_of_power {site : Site} (power : site.dividesByPower = true)
    (context : MethodContext) : division site context = .findings [divisionFinding site] := by
  obtain ⟨⟨_, isDivision⟩, divisor, right, isLiteral, value, read, above, isPower⟩ :=
    Site.dividesByPower_eq_true_iff.mp power
  have notSmall : ¬value ≤ 1 := by omega
  simp [division, right, isDivision, isLiteral, read, isPower, notSmall, report, divisionFinding]

theorem division_of_other {site : Site} (isBinary : site.kind = .binaryExpression)
    (other : site.dividesByPower = false) (context : MethodContext) :
    division site context = silent ∨ ∃ line, division site context = .malformedLiteral line := by
  unfold division
  split
  · exact .inl rfl
  · next divisor right =>
    split
    · exact .inl rfl
    · next isDivision =>
      split
      · exact .inr ⟨_, rfl⟩
      · next value read =>
        split
        · exact .inl rfl
        · next isPower =>
          simp only [Bool.or_eq_true, bne_iff_ne, ne_eq, Bool.not_eq_true', not_or, not_not,
            Bool.not_eq_false, decide_eq_true_eq, Int.not_le] at isDivision isPower
          -- The tests that the check makes before it reports are those of
          -- `dividesByPower`.
          refine absurd (Site.dividesByPower_eq_true_iff.mpr ?_) (Bool.eq_false_iff.mp other)
          exact ⟨⟨isBinary, isDivision.1⟩, divisor, right, isDivision.2, value, read, isPower⟩

theorem findings_division {site : Site} (isBinary : site.kind = .binaryExpression)
    (context : MethodContext) :
    ((rule .divisionOptimization (· == .binaryExpression) division).apply site context).findings =
      if site.dividesByPower then [divisionFinding site] else [] := by
  have applied : (rule .divisionOptimization (· == .binaryExpression) division).apply site context =
      ⟨_, site.line, division site context⟩ := rfl
  rw [applied]
  cases power : site.dividesByPower with
  | true =>
    rw [division_of_power power]
    rfl
  | false =>
    rcases division_of_other isBinary power context with passed | ⟨line, malformed⟩
    · rw [passed]
      rfl
    · rw [malformed]
      rfl

theorem filter_division (limits : Limits) (context : MethodContext) :
    (analyzeMethod limits context).findings.filter (·.category == .divisionOptimization) =
      (context.method.ownScope.filter Site.dividesByPower).map divisionFinding := by
  have isRule : rule .divisionOptimization (· == .binaryExpression) division ∈ nodeRules := by
    simp [nodeRules]
  have inspected : ∀ site ∈ context.method.ownScope.filter (·.kind == .binaryExpression),
      ((rule .divisionOptimization (· == .binaryExpression) division).apply site context).findings =
        if site.dividesByPower then [divisionFinding site] else [] := by
    intro site member
    exact findings_division (by simpa using (List.mem_filter.mp member).2) context
  rw [filter_analyzeMethod isRule division_about, List.flatMap_congr inspected,
    flatMap_ite_singleton, List.filter_filter]
  congr 2
  funext site
  rw [Site.dividesByPower]
  cases site.kind == .binaryExpression <;> simp

section
variable {site : Site} {literal : Literal} (divides : site.DividesBy literal)
  (valid : literal.IsValid)
include divides valid

/-- For a literal that fits its type the check judges the number that its digits denote. -/
theorem dividesByPower_iff_value :
    site.dividesByPower = true ↔
      ∃ exponent : Nat, 1 ≤ exponent ∧ (literal.value : Int) = 2 ^ exponent := by
  obtain ⟨isBinary, isDivision, divisor, right, isLiteral, written⟩ := divides
  rw [← isReported_iff]
  simp [Site.dividesByPower, isBinary, isDivision, right, isLiteral, valid.value? written]

theorem division_of_literal (context : MethodContext) :
    division site context =
      .findings (if site.dividesByPower then [divisionFinding site] else []) := by
  cases power : site.dividesByPower with
  | true => exact division_of_power power context
  | false =>
    rcases division_of_other divides.isBinary power context with passed | ⟨line, malformed⟩
    · exact passed
    · -- The divisor is read, so it is not malformed.
      obtain ⟨divisor, right, isLiteral, written⟩ := divides.divisor
      simp only [division, right, divides.isDivision, isLiteral, valid.value? written] at malformed
      simp only [bne_self_eq_false, Bool.not_true, Bool.or_self, Bool.false_eq_true, if_false]
        at malformed
      split at malformed <;> cases malformed

theorem dividesByPower_iff_denoted :
    site.dividesByPower = true ↔
      (∃ exponent : Nat, 1 ≤ exponent ∧ literal.denoted = 2 ^ exponent) ∨
        literal.value = 2 ^ (literal.width - 1) := by
  -- The sign bit is taken for a power of two.
  rw [dividesByPower_iff_value divides valid, valid.denoted_eq_pow_iff]
  have signBit : literal.value = 2 ^ (literal.width - 1) →
      ∃ exponent : Nat, 1 ≤ exponent ∧ (literal.value : Int) = 2 ^ exponent := by
    intro sign
    refine ⟨literal.width - 1, ?_, by exact_mod_cast sign⟩
    unfold Literal.width
    split <;> decide
  constructor
  · intro power
    by_cases sign : literal.value = 2 ^ (literal.width - 1)
    · exact .inr sign
    · exact .inl ⟨power, sign⟩
  · rintro (⟨power, _⟩ | sign)
    · exact power
    · exact signBit sign

end

/-- A method reports the divisions by literals that are read as powers of two above one. A division
by a literal that fits its type is among them if the value of the literal is such a power, and also
if the sign bit is the only bit of the literal. So a report and such a value coincide exactly if the
sign bit is not the only bit of the literal. -/
theorem divisions_reported_iff (limits : Limits) (context : MethodContext) :
    (analyzeMethod limits context).findings.filter (·.category == .divisionOptimization) =
        (context.method.ownScope.filter Site.dividesByPower).map divisionFinding ∧
      ∀ (site : Site) (literal : Literal), site.DividesBy literal → literal.IsValid →
        division site context =
            .findings (if site.dividesByPower then [divisionFinding site] else []) ∧
          (site.dividesByPower = true ↔
            (∃ exponent : Nat, 1 ≤ exponent ∧ literal.denoted = 2 ^ exponent) ∨
              literal.value = 2 ^ (literal.width - 1)) ∧
          ((site.dividesByPower = true ↔
            ∃ exponent : Nat, 1 ≤ exponent ∧ literal.denoted = 2 ^ exponent) ↔
              literal.value ≠ 2 ^ (literal.width - 1)) := by
  refine ⟨filter_division limits context, fun site literal divides valid => ?_⟩
  have reported := dividesByPower_iff_denoted divides valid
  refine ⟨division_of_literal divides valid context, reported, ?_⟩
  rw [reported]
  constructor
  · intro agree sign
    have power := agree.mp (.inr sign)
    exact (valid.denoted_eq_pow_iff.mp power).2 sign
  · intro notSign
    exact or_iff_left notSign

theorem grouped_zeros {base : Nat} (positive : 0 < base) (count : Nat) :
    Grouped base (List.replicate (count + 1) '0') (List.replicate (count + 1) 0) := by
  have isZero : Digit base '0' 0 := ⟨positive, rfl⟩
  induction count with
  | zero => exact .last isZero
  | succ count ih => exact @Grouped.next base '0' 0 [] _ _ isZero (by simp [IsGap]) ih

def hexWord (c : Char) (value : Nat) (digit : Digit 16 c value) : Literal where
  form := .hexadecimal
  isLong := false
  numeral := '0' :: 'x' :: c :: List.replicate 7 '0'
  suffix := []
  digits := value :: List.replicate 7 0
  spells := .hexadecimal (.inl rfl)
    (@Grouped.next 16 c value [] _ _ digit (by simp [IsGap]) (grouped_zeros (by decide) 6))
  ends := .missing

def dividing (divisor : String) : Node :=
  let source := "void f() \x7b a = b / " ++ divisor ++ "; \x7d"
  let stop := 19 + divisor.length
  let node := Node.ofAscii source
  .voidMethod source 0 source.length [
    node .expressionStatement true none 11 (stop + 1) [
      node .assignmentExpression true none 11 stop [
        node .identifier true (some .left) 11 12 [],
        node (.other "=") false (some .operator) 13 14 [],
        node .binaryExpression true (some .right) 15 stop [
          node .identifier true (some .left) 15 16 [],
          node (.other "/") false (some .operator) 17 18 [],
          node .hexIntegerLiteral true (some .right) 19 stop []]],
      node .semicolon false none stop (stop + 1) []]]

theorem largest_power_reported :
    let literal := hexWord '4' 4 ⟨by decide, rfl⟩
    let method := dividing "0x40000000"
    ∃ site ∈ (Site.root method).ownScope, site.DividesBy literal ∧ literal.IsValid ∧
      literal.denoted = 2 ^ 30 ∧ site.dividesByPower = true ∧
      (analyzeMethod {} (.alone [] method)).findings.filter (·.category == .divisionOptimization) =
        [divisionFinding site] := by
  -- The largest power of two among the literals of this form is reported.
  intro literal method
  let site := (Site.root method).ownScope.get ⟨5, by decide +kernel⟩
  have divides : site.DividesBy literal := by decide +kernel
  have valid : literal.IsValid := by decide +kernel
  have power : literal.denoted = 2 ^ 30 := by decide +kernel
  obtain ⟨findings, judged⟩ := divisions_reported_iff {} (.alone [] method)
  have reported : site.dividesByPower = true :=
    (judged site literal divides valid).2.1.mpr (.inl ⟨30, by decide, power⟩)
  refine ⟨site, List.get_mem .., divides, valid, power, reported, ?_⟩
  rw [findings]
  decide +kernel

/-- The sign bit alone stands for the least number, and the division by it is reported. -/
theorem sign_bit_reported :
    let literal := hexWord '8' 8 ⟨by decide, rfl⟩
    let method := dividing "0x80000000"
    (¬∃ exponent : Nat, 1 ≤ exponent ∧ literal.denoted = 2 ^ exponent) ∧
      literal.denoted = -2147483648 ∧ literal.IsValid ∧
      ∃ site ∈ (Site.root method).ownScope, site.DividesBy literal ∧
        (analyzeMethod {} (.alone [] method)).findings = [divisionFinding site] := by
  intro literal method
  have valid : literal.IsValid := by decide +kernel
  have sign : literal.value = 2 ^ (literal.width - 1) := by decide +kernel
  refine ⟨fun power => (valid.denoted_eq_pow_iff.mp power).2 sign, by decide +kernel, valid, ?_⟩
  decide +kernel

end Optimization

end JavaAudit
