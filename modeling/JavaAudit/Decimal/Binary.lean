/-! Double-precision numbers as integers times powers of two, and with a fixed count of decimal
places. -/

set_option autoImplicit false

namespace JavaAudit.Decimal

/-- The smallest positive double is `2 ^ -leastExponent`. -/
def leastExponent : Nat := 1074

/-- A finite magnitude `mantissa * 2 ^ (exponent - leastExponent)`. -/
structure Magnitude where
  mantissa : Nat
  exponent : Nat
  deriving DecidableEq, Repr

inductive Double where
  | finite (negative : Bool) (magnitude : Magnitude)
  | infinite (negative : Bool)
  | undefined
  deriving DecidableEq, Repr

namespace Double

def ofFloat (x : Float) : Double :=
  let bits := x.toBits.toNat
  let negative := bits >>> 63 = 1
  let biased := (bits >>> 52) % 2048
  let fraction := bits % (1 <<< 52)
  if biased = 2047 then
    if fraction = 0 then .infinite negative else .undefined
  else if biased = 0 then .finite negative ⟨fraction, 0⟩
  else .finite negative ⟨fraction + (1 <<< 52), biased - 1⟩

end Double

/-- The integer nearest to a quotient; a half goes to the even neighbour. -/
def roundDiv (numerator denominator : Nat) : Nat :=
  let quotient := numerator / denominator
  let twice := 2 * (numerator % denominator)
  if twice < denominator then quotient
  else if denominator < twice then quotient + 1
  else quotient + quotient % 2

/-- The magnitude nearest to a quotient, as the bits of a double; infinity if it is too large. -/
def nearestBits (numerator denominator : Nat) : UInt64 :=
  if numerator = 0 then 0
  else
    -- The unit in the last place is 2 ^ (scale - leastExponent), at least the smallest subnormal.
    let shift := numerator.log2 + leastExponent - (denominator.log2 + 52)
    let scale :=
      if numerator <<< leastExponent < denominator <<< (shift + 52) then shift - 1 else shift
    let mantissa := roundDiv (numerator <<< leastExponent) (denominator <<< scale)
    let bits := if mantissa < 1 <<< 52 then mantissa else (scale <<< 52) + mantissa
    if bits < 2047 <<< 52 then UInt64.ofNat bits else 0x7FF0000000000000

def nearest (negative : Bool) (numerator denominator : Nat) : Float :=
  let magnitude := Float.ofBits (nearestBits numerator denominator)
  if negative then -magnitude else magnitude

/-- The double nearest to `mantissa * 10 ^ exponent`. Exponents far outside the range of doubles
decide the result by themselves. -/
def ofScientific (negative : Bool) (mantissa : Nat) (exponent : Int) : Float :=
  let size : Int := (Nat.toDigits 10 mantissa).length + exponent
  if mantissa = 0 ∨ size < -400 then nearest negative 0 1
  else if 400 < size then nearest negative (1 <<< 1100) 1
  else if 0 ≤ exponent then nearest negative (mantissa * Nat.pow 10 exponent.toNat) 1
  else nearest negative mantissa (Nat.pow 10 exponent.natAbs)

def ofInt? (value : Int) : Option Float :=
  let result := nearest (value < 0) value.natAbs 1
  if result.isInf then none else some result

def paddedDigits (width value : Nat) : List Char :=
  let digits := Nat.toDigits 10 value
  List.replicate (width - digits.length) '0' ++ digits

def Magnitude.scaled (magnitude : Magnitude) (places : Nat) : Nat :=
  roundDiv ((magnitude.mantissa <<< magnitude.exponent) * Nat.pow 10 places) (1 <<< leastExponent)

def Double.fixed (places : Nat) : Double → String
  | .undefined => "nan"
  | .infinite negative => if negative then "-inf" else "inf"
  | .finite negative magnitude =>
    let digits := paddedDigits (places + 1) (magnitude.scaled places)
    let whole := digits.take (digits.length - places)
    let fraction := digits.drop (digits.length - places)
    String.ofList ((if negative then ['-'] else []) ++ whole ++
      (if places = 0 then [] else '.' :: fraction))

def fixed (places : Nat) (x : Float) : String :=
  (Double.ofFloat x).fixed places

end JavaAudit.Decimal
