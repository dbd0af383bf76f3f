import JavaAudit.Decimal.Binary

/-! The fewest decimal digits that read back as the same double. -/

set_option autoImplicit false

namespace JavaAudit.Decimal

/-- `digits * 10 ^ exponent`. -/
structure Digits where
  digits : Nat
  exponent : Int
  deriving DecidableEq, Repr

namespace Magnitude

/-- A point `digits * 10 ^ exponent` of a decimal grid reads back as the magnitude. -/
def readsBack (magnitude : Magnitude) (point : Digits) : Bool :=
  nearestBits (point.digits * Nat.pow 10 point.exponent.toNat)
      (Nat.pow 10 (-point.exponent).toNat) ==
    nearestBits (magnitude.mantissa <<< magnitude.exponent) (1 <<< leastExponent)

def order (magnitude : Magnitude) : Int :=
  let numerator := magnitude.mantissa <<< magnitude.exponent
  let whole := numerator >>> leastExponent
  if 0 < whole then (Nat.toDigits 10 whole).length - 1
  else
    -- Below one, count the places until the first digit that is not zero.
    let digits := (Nat.toDigits 10 ((numerator * Nat.pow 10 400) >>> leastExponent)).length
    (digits : Int) - 401

def onGrid (magnitude : Magnitude) (count : Nat) : List Digits :=
  let exponent := magnitude.order - (count : Int) + 1
  let numerator := (magnitude.mantissa <<< magnitude.exponent) * Nat.pow 10 (-exponent).toNat
  let denominator := Nat.pow 10 exponent.toNat <<< leastExponent
  let lower := numerator / denominator
  if roundDiv numerator denominator = lower then [⟨lower, exponent⟩, ⟨lower + 1, exponent⟩]
  else [⟨lower + 1, exponent⟩, ⟨lower, exponent⟩]

/-- The nearest point that reads back on the coarsest grid that has one; seventeen digits always
do. -/
def shortest (magnitude : Magnitude) : Digits :=
  (((List.range 17).flatMap fun count => magnitude.onGrid (count + 1)).find?
    magnitude.readsBack).getD ⟨magnitude.mantissa <<< magnitude.exponent, 0⟩

end Magnitude

def dropTrailingZeros (digits : List Char) : List Char :=
  (digits.reverse.dropWhile (· == '0')).reverse

/-- A magnitude is written positionally from `10 ^ -4` up to, and not including, `10 ^ 16`. A whole
number keeps `.0`; an exponent has a sign and at least two digits. -/
def Magnitude.general (magnitude : Magnitude) : List Char :=
  if magnitude.mantissa = 0 then "0.0".toList
  else
    let point := magnitude.shortest
    let all := Nat.toDigits 10 point.digits
    let order : Int := all.length - 1 + point.exponent
    let digits := dropTrailingZeros all
    if -4 ≤ order ∧ order < 16 then
      if order < 0 then
        "0.".toList ++ List.replicate (order.natAbs - 1) '0' ++ digits
      else
        let width := order.toNat + 1
        let whole := digits.take width ++ List.replicate (width - digits.length) '0'
        let fraction := digits.drop width
        whole ++ '.' :: (if fraction.isEmpty then ['0'] else fraction)
    else
      let exponent := Nat.toDigits 10 order.natAbs
      digits.take 1 ++ (if digits.length = 1 then [] else '.' :: digits.drop 1) ++
        ['e', if order < 0 then '-' else '+'] ++
        (if exponent.length < 2 then '0' :: exponent else exponent)

def general (x : Float) : String :=
  match Double.ofFloat x with
  | .undefined => "nan"
  | .infinite negative => if negative then "-inf" else "inf"
  | .finite negative magnitude =>
    String.ofList ((if negative then ['-'] else []) ++ magnitude.general)

end JavaAudit.Decimal
