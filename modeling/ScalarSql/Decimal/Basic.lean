import ScalarSql.Number.BoundedInt

/-!
# Exact decimals

A decimal is a signed coefficient of at most 96 bits divided by a power of ten, with at
most 28 fraction digits.  The scale is part of the value that is shown, so `1.5` and
`1.50` are different decimals that denote the same number.  `Decimal.units` counts
steps of `10 ^ -28`: two decimals denote the same number exactly when their units
agree, and their order is the order of their units.
-/

set_option autoImplicit false

namespace ScalarSql

/-- A decimal number with the number of fraction digits it is shown with. -/
structure Decimal where
  negative : Bool
  coefficient : Nat
  scale : Nat
  coefficient_lt : coefficient < twoPow 96
  scale_le : scale ≤ 28
  deriving DecidableEq

namespace Decimal

/-- Zero without fraction digits. -/
def zero : Decimal := ⟨false, 0, 0, by decide, by decide⟩

instance : Inhabited Decimal := ⟨zero⟩

/-- The decimal with these parts, if they are in range.  A zero built from parts is
never negative. -/
def ofParts? (negative : Bool) (coefficient scale : Nat) : Option Decimal :=
  if h : coefficient < twoPow 96 ∧ scale ≤ 28 then
    some ⟨negative && coefficient != 0, coefficient, scale, h.1, h.2⟩
  else
    none

/-- Whether the number is zero. -/
def isZero (d : Decimal) : Bool := d.coefficient == 0

/-- The number with the sign applied to the coefficient. -/
def signedCoefficient (d : Decimal) : Int :=
  if d.negative then -(d.coefficient : Int) else d.coefficient

/-- The number counted in steps of `10 ^ -28`. -/
def units (d : Decimal) : Int :=
  d.signedCoefficient * tenPow (28 - d.scale)

/-- Whether two decimals denote the same number. -/
def sameNumber (left right : Decimal) : Bool := left.units == right.units

/-- The order of the numbers denoted. -/
def compareNumber (left right : Decimal) : Ordering := compare left.units right.units

/-- The same magnitude with the other sign, also for zero. -/
def neg (d : Decimal) : Decimal := { d with negative := !d.negative }

/-- The magnitude. -/
def abs (d : Decimal) : Decimal := { d with negative := false }

/-- The integer part, without the fraction. -/
def truncated (d : Decimal) : Int :=
  if d.negative then -((d.coefficient / tenPow d.scale : Nat) : Int)
  else ((d.coefficient / tenPow d.scale : Nat) : Int)

/-- Whether the fraction digits are all zero. -/
def isIntegral (d : Decimal) : Bool := d.coefficient % tenPow d.scale == 0

/-- A 64-bit integer as a decimal without fraction digits. -/
def ofLong (value : BoundedInt 64) : Decimal where
  negative := value.val < 0
  coefficient := value.val.natAbs
  scale := 0
  coefficient_lt := by
    have lower := value.lower
    have upper := value.upper
    have lt : twoPow (64 - 1) < twoPow 96 := by decide
    omega
  scale_le := by decide

/-- A 32-bit integer as a decimal without fraction digits. -/
def ofInt (value : BoundedInt 32) : Decimal := ofLong value.widen

/-- The coefficient and scale of the same number without zeros at the end of its
fraction; at most `scale` zeros are dropped. -/
def stripZeros (coefficient : Nat) : Nat → Nat × Nat
  | 0 => (coefficient, 0)
  | scale + 1 =>
      if coefficient % 10 = 0 then stripZeros (coefficient / 10) scale
      else (coefficient, scale + 1)

theorem stripZeros_le (coefficient scale : Nat) :
    (stripZeros coefficient scale).1 ≤ coefficient ∧ (stripZeros coefficient scale).2 ≤ scale := by
  induction scale generalizing coefficient with
  | zero => simp [stripZeros]
  | succ scale ih =>
    unfold stripZeros
    split
    · have := ih (coefficient / 10); omega
    · simp

/-- The same number without zeros at the end of its fraction, zero without a sign. -/
def normalized (d : Decimal) : Decimal :=
  if d.isZero then zero
  else
    { negative := d.negative
      coefficient := (stripZeros d.coefficient d.scale).1
      scale := (stripZeros d.coefficient d.scale).2
      coefficient_lt := Nat.lt_of_le_of_lt (stripZeros_le _ _).1 d.coefficient_lt
      scale_le := Nat.le_trans (stripZeros_le _ _).2 d.scale_le }

end Decimal

end ScalarSql
