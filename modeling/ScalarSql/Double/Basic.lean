import ScalarSql.Number.Natural

/-!
# Doubles as multiples of one grid step

Every finite double is a whole multiple of `2 ^ -1074`.  `Double.units` is that
multiple, so the order of finite doubles is the order of integers and exact sums,
products and remainders are integer arithmetic; only `Double.ofRatio` rounds.
There is a single not-a-number, because no result shows its payload, while the
two zeros are kept apart by their sign.
-/

set_option autoImplicit false

namespace ScalarSql

/-- The significand and exponent of a finite double: 53 bits, exponents from
`-1074` to `971`, and the leading bit set unless the exponent is the least. -/
def CanonicalBinary (significand : Nat) (exponent : Int) : Prop :=
  significand < twoPow 53 ∧ -1074 ≤ exponent ∧ exponent ≤ 971 ∧
    (twoPow 52 ≤ significand ∨ exponent = -1074)

instance (significand : Nat) (exponent : Int) :
    Decidable (CanonicalBinary significand exponent) := by
  unfold CanonicalBinary; infer_instance

/-- A double: a signed significand times a power of two, an infinity, or the
value that is not a number. -/
inductive Double where
  | finite (negative : Bool) (significand : Nat) (exponent : Int)
      (canonical : CanonicalBinary significand exponent)
  | infinite (negative : Bool)
  | nan
  deriving DecidableEq

namespace Double

/-- The zero of the given sign. -/
def zero (negative : Bool) : Double :=
  .finite negative 0 (-1074) (by decide)

instance : Inhabited Double := ⟨zero false⟩

/-- The magnitude of a finite double in steps of `2 ^ -1074`. -/
def steps (significand : Nat) (exponent : Int) : Nat :=
  significand * twoPow (exponent + 1074).toNat

/-- A signed natural number as an integer. -/
def signed (negative : Bool) (magnitude : Nat) : Int :=
  if negative then -(magnitude : Int) else magnitude

/-- The number of grid steps per unit. -/
def stepsPerUnit : Nat := twoPow 1074

/-- The position of a double on the grid, if it is finite. -/
def units? : Double → Option Int
  | .finite negative significand exponent _ => some (signed negative (steps significand exponent))
  | .infinite _ | .nan => none

/-- Whether the sign bit is set; the value that is not a number counts as positive. -/
def isNegative : Double → Bool
  | .finite negative _ _ _ => negative
  | .infinite negative => negative
  | .nan => false

/-! ## The order -/

/-- The order of two doubles; undefined as soon as one is not a number.  The two
zeros are equal. -/
def compare? : Double → Double → Option Ordering
  | .nan, _ => none
  | _, .nan => none
  | .infinite true, .infinite true => some .eq
  | .infinite false, .infinite false => some .eq
  | .infinite true, _ => some .lt
  | .infinite false, _ => some .gt
  | _, .infinite true => some .gt
  | _, .infinite false => some .lt
  | .finite leftNegative leftSignificand leftExponent _,
    .finite rightNegative rightSignificand rightExponent _ =>
      some (compare (signed leftNegative (steps leftSignificand leftExponent))
        (signed rightNegative (steps rightSignificand rightExponent)))

/-- Numeric equality: the zeros agree and nothing equals the value that is not a number. -/
def sameNumber (left right : Double) : Bool :=
  compare? left right == some .eq

/-- Whether the double is one of the two zeros. -/
def isZero : Double → Bool
  | .finite _ significand _ _ => significand == 0
  | .infinite _ | .nan => false

end Double

end ScalarSql
