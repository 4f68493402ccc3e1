import ScalarSql.Double.Basic
import ScalarSql.Number.Natural

/-!
# Arithmetic on doubles

Each operation computes its exact result on the grid of `Double.units?` and rounds
it once, to the nearest double and to the even significand in a tie.  A result past
the largest double is an infinity.
-/

set_option autoImplicit false

namespace ScalarSql.Double

/-! ## Rounding a ratio to a double -/

/-- The exponent of the leading bit of a positive ratio: the `k` with
`2 ^ k ≤ numerator / denominator < 2 ^ (k + 1)`. -/
def leadingExponent (numerator denominator : Nat) : Int :=
  let guess : Int := (Nat.log2 numerator : Int) - Nat.log2 denominator
  let below :=
    if 0 ≤ guess then decide (numerator < denominator * twoPow guess.toNat)
    else decide (numerator * twoPow (-guess).toNat < denominator)
  if below then guess - 1 else guess

/-- The double nearest to a non-negative ratio, with the given sign. -/
def ofRatio (negative : Bool) (numerator denominator : Nat) : Double :=
  if numerator = 0 then zero negative
  else
    let exponent := max (leadingExponent numerator denominator - 52) (-1074)
    let rounded :=
      if 0 ≤ exponent then divideHalfEven numerator (denominator * twoPow exponent.toNat)
      else divideHalfEven (numerator * twoPow (-exponent).toNat) denominator
    let carried := rounded == twoPow 53
    let significand := if carried then twoPow 52 else rounded
    let finalExponent := if carried then exponent + 1 else exponent
    if h : CanonicalBinary significand finalExponent then
      .finite negative significand finalExponent h
    else
      .infinite negative

/-- The double nearest to an integer. -/
def ofInt (value : Int) : Double :=
  ofRatio (value < 0) value.natAbs 1

/-- The double nearest to an integer number of grid steps. -/
def ofUnits (units : Int) : Double :=
  ofRatio (units < 0) units.natAbs stepsPerUnit

/-- The same magnitude with the other sign. -/
def neg : Double → Double
  | .finite negative significand exponent canonical =>
      .finite (!negative) significand exponent canonical
  | .infinite negative => .infinite (!negative)
  | .nan => .nan

/-- The sum.  A sum that is exactly zero is positive unless both zeros are negative. -/
def add : Double → Double → Double
  | .nan, _ => .nan
  | _, .nan => .nan
  | .infinite left, .infinite right => if left = right then .infinite left else .nan
  | .infinite negative, .finite .. => .infinite negative
  | .finite .., .infinite negative => .infinite negative
  | .finite leftNegative leftSignificand leftExponent _,
    .finite rightNegative rightSignificand rightExponent _ =>
      let sum := signed leftNegative (steps leftSignificand leftExponent)
        + signed rightNegative (steps rightSignificand rightExponent)
      if sum = 0 then zero (leftNegative && rightNegative) else ofUnits sum

/-- The difference. -/
def sub (left right : Double) : Double :=
  add left (neg right)

/-- The product. -/
def mul : Double → Double → Double
  | .nan, _ => .nan
  | _, .nan => .nan
  | .infinite left, .infinite right => .infinite (left != right)
  | .infinite left, .finite right significand _ _ =>
      if significand = 0 then .nan else .infinite (left != right)
  | .finite left significand _ _, .infinite right =>
      if significand = 0 then .nan else .infinite (left != right)
  | .finite leftNegative leftSignificand leftExponent _,
    .finite rightNegative rightSignificand rightExponent _ =>
      ofRatio (leftNegative != rightNegative)
        (steps leftSignificand leftExponent * steps rightSignificand rightExponent)
        (stepsPerUnit * stepsPerUnit)

/-- The quotient. -/
def div : Double → Double → Double
  | .nan, _ => .nan
  | _, .nan => .nan
  | .infinite _, .infinite _ => .nan
  | .infinite left, .finite right _ _ _ => .infinite (left != right)
  | .finite left _ _ _, .infinite right => zero (left != right)
  | .finite leftNegative leftSignificand leftExponent _,
    .finite rightNegative rightSignificand rightExponent _ =>
      if rightSignificand = 0 then
        if leftSignificand = 0 then .nan else .infinite (leftNegative != rightNegative)
      else
        ofRatio (leftNegative != rightNegative)
          (steps leftSignificand leftExponent) (steps rightSignificand rightExponent)

/-- The remainder of the division that truncates toward zero; it has the sign of
the dividend and is always exact. -/
def rem : Double → Double → Double
  | .nan, _ => .nan
  | _, .nan => .nan
  | .infinite _, _ => .nan
  | .finite negative significand exponent canonical, .infinite _ =>
      .finite negative significand exponent canonical
  | .finite leftNegative leftSignificand leftExponent _,
    .finite _ rightSignificand rightExponent _ =>
      if rightSignificand = 0 then .nan
      else
        ofRatio leftNegative
          (steps leftSignificand leftExponent % steps rightSignificand rightExponent)
          stepsPerUnit

/-- The magnitude. -/
def abs : Double → Double
  | .finite _ significand exponent canonical => .finite false significand exponent canonical
  | .infinite _ => .infinite false
  | .nan => .nan

/-- The nearest integer as a double, an exact half going away from zero. -/
def round : Double → Double
  | .finite negative significand exponent _ =>
      ofRatio negative
        ((2 * steps significand exponent + stepsPerUnit) / (2 * stepsPerUnit)) 1
  | .infinite negative => .infinite negative
  | .nan => .nan

/-- The integer part, without the fraction; undefined for infinities and for the
value that is not a number. -/
def truncate? : Double → Option Int
  | .finite negative significand exponent _ =>
      some (signed negative (steps significand exponent / stepsPerUnit))
  | .infinite _ | .nan => none

/-- A natural power by repeated squaring, each product rounded. -/
def powNat (base : Double) (exponent : Nat) : Double :=
  go base (ofInt 1) exponent exponent
where
  /-- Multiplies `result` by `base ^ exponent`; `fuel` bounds the number of bits of
  the exponent. -/
  go (base result : Double) (exponent : Nat) : Nat → Double
    | 0 => result
    | fuel + 1 =>
        let result := if exponent % 2 = 1 then mul result base else result
        if exponent / 2 = 0 then result
        else go (mul base base) result (exponent / 2) fuel

/-! ## The 64-bit interchange format -/

/-- The sign, exponent and fraction bits of a double as one number; the value that
is not a number has the quiet pattern with no other payload. -/
def toBits : Double → Nat
  | .finite negative significand exponent _ =>
      (if negative then twoPow 63 else 0) +
        (if significand < twoPow 52 then significand
         else (exponent + 1075).toNat * twoPow 52 + (significand - twoPow 52))
  | .infinite negative => (if negative then twoPow 63 else 0) + 2047 * twoPow 52
  | .nan => 2047 * twoPow 52 + twoPow 51

/-- The double with the given 64 bits. -/
def ofBits (bits : Nat) : Double :=
  let negative := (bits / twoPow 63) % 2 == 1
  let biased : Nat := (bits / twoPow 52) % 2048
  let fraction := bits % twoPow 52
  if biased = 2047 then
    if fraction = 0 then .infinite negative else .nan
  else
    let significand : Nat := if biased = 0 then fraction else fraction + twoPow 52
    let exponent : Int := if biased = 0 then -1074 else (biased : Int) - 1075
    if h : CanonicalBinary significand exponent then
      .finite negative significand exponent h
    else
      .nan

end ScalarSql.Double
