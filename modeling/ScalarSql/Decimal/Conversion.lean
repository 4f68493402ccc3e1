import ScalarSql.Decimal.Arithmetic
import ScalarSql.Double.Arithmetic

/-!
# Decimals and doubles

A decimal becomes a double by adding its integer part and its fraction part, each
rounded, and then cutting the sum back to the decimal's own number of places.  A double
becomes a decimal by scaling its 53-bit significand to a power of ten, which keeps the
decimal digits of short numbers such as `0.1` and rounds away the rest.
-/

set_option autoImplicit false

namespace ScalarSql.Decimal

/-- The double for a decimal. -/
def toDouble (d : Decimal) : Double :=
  if d.scale = 0 then Double.ofInt d.signedCoefficient
  else
    let precision := tenPow d.scale
    let whole := Double.ofInt (d.coefficient / precision : Nat)
    let fraction :=
      Double.div (Double.ofInt (d.coefficient % precision : Nat)) (Double.ofInt precision)
    let magnitude :=
      if fraction.isZero then whole
      else
        let places := Double.powNat (Double.ofInt 10) d.scale
        Double.div (Double.round (Double.mul (Double.add whole fraction) places)) places
    if d.negative then magnitude.neg else magnitude

/-- A magnitude on the way from a power of two to a power of ten: the number is
`coefficient / 10 ^ places`. -/
structure Scaled where
  coefficient : Nat
  places : Nat

namespace Scaled

/-- Halves the number `halvings` times: an even coefficient is halved, an odd one is
multiplied by five under one more place, or, when that has no room, halved with its
last bit lost. -/
def halve : Nat → Scaled → Scaled
  | 0, scaled => scaled
  | halvings + 1, ⟨coefficient, places⟩ =>
      if coefficient % 2 = 0 then halve halvings ⟨coefficient / 2, places⟩
      else if coefficient * 5 < twoPow 96 then halve halvings ⟨coefficient * 5, places + 1⟩
      else halve halvings ⟨coefficient / 2, places⟩

/-- Drops one place, rounding half up. -/
def dropPlace (scaled : Scaled) : Scaled :=
  ⟨(scaled.coefficient + 5) / 10, scaled.places - 1⟩

/-- Drops places while there are more than 28.  A coefficient with a single digit left
becomes zero without places instead of being rounded. -/
def toMaxScale : Nat → Scaled → Scaled
  | 0, scaled => scaled
  | fuel + 1, scaled =>
      if 28 < scaled.places then
        if scaled.coefficient < 10 then ⟨0, 0⟩ else toMaxScale fuel scaled.dropPlace
      else
        scaled

/-- Drops places while the coefficient has more than 52 bits. -/
def toSignificand : Nat → Scaled → Scaled
  | 0, scaled => scaled
  | fuel + 1, scaled =>
      if 0 < scaled.places ∧ twoPow 52 ≤ scaled.coefficient then
        toSignificand fuel scaled.dropPlace
      else
        scaled

end Scaled

/-- The decimal for a finite double whose integer part has room. -/
def ofDouble? : Double → Option Decimal
  | .finite negative significand exponent _ =>
      if significand = 0 then some { zero with negative }
      else if 0 ≤ exponent then
        ofParts? negative (significand * twoPow exponent.toNat) 0
      else
        let halved := Scaled.halve (-exponent).toNat ⟨significand, 0⟩
        let scaled := (halved.toMaxScale halved.places)
        let short := scaled.toSignificand scaled.places
        let (coefficient, places) := stripZeros short.coefficient short.places
        (ofParts? false coefficient places).map ({ · with negative })
  | .infinite _ | .nan => none

end ScalarSql.Decimal
