import JavaAudit.Decimal.Binary

/-! Numbers that scores are made of.

Scores run on doubles; their laws are stated for exact fractions. -/

set_option autoImplicit false

namespace JavaAudit

class Scalar (S : Type) extends Add S, Sub S, Mul S, Div S, LT S, LE S, IntCast S where
  decidableLt : DecidableLT S
  decidableLe : DecidableLE S
  /-- Is an integer within the range of the numbers? -/
  inRange : Int → Bool

instance Scalar.instDecidableLT {S : Type} [Scalar S] : DecidableLT S :=
  Scalar.decidableLt

instance Scalar.instDecidableLE {S : Type} [Scalar S] : DecidableLE S :=
  Scalar.decidableLe

instance : Scalar Float where
  intCast := Float.ofInt
  decidableLt := inferInstance
  decidableLe := inferInstance
  inRange value := (Decimal.ofInt? value).isSome

instance : Scalar Rat where
  decidableLt := inferInstance
  decidableLe := inferInstance
  inRange _ := true

namespace Scalar

variable {S : Type} [Scalar S]

def points (value : Int) : S :=
  IntCast.intCast value

def distance (left right : S) : S :=
  if left - right < points 0 then points 0 - (left - right) else left - right

def mean (scores : List S) : S :=
  scores.foldl (· + ·) (points 0) / points scores.length

@[simp] theorem points_rat (value : Int) : (points value : Rat) = value := rfl

end Scalar

end JavaAudit
