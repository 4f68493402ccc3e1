import ScalarSql.Decimal.Basic
import ScalarSql.Number.Natural

/-!
# Decimal arithmetic

Sums and products are computed exactly and then fitted into the 96 bits
of a coefficient by giving up fraction digits, rounding half to even; a result whose
integer part alone is too large has no value.  A quotient that does not come out even
at the scale of its operands is extended nine digits at a time for as long as the
coefficient has room, and the digits gained are then trimmed of zeros.  A remainder by a
long divisor comes from a division word by word, whose digits are words too.
-/

set_option autoImplicit false

namespace ScalarSql.Decimal

/-- The decimal with the most fraction digits, at most 28 and at most `scale`, that is
the half-even rounding of `coefficient / 10 ^ scale` and has room for it. -/
def fit? (negative : Bool) (coefficient scale : Nat) : Option Decimal :=
  (List.range (scale + 1)).findSome? fun dropped =>
    ofParts? negative (divideHalfEven coefficient (tenPow dropped)) (scale - dropped)

/-- The sum.  A zero operand leaves the other one as it is; otherwise the sum has the
larger of the two scales while there is room. -/
def add? (left right : Decimal) : Option Decimal :=
  if left.isZero then some right
  else if right.isZero then some left
  else
    let scale := max left.scale right.scale
    let sum := left.signedCoefficient * tenPow (scale - left.scale)
      + right.signedCoefficient * tenPow (scale - right.scale)
    fit? (sum < 0) sum.natAbs scale

/-- The difference.  Zero minus a number that is not zero is its negation. -/
def sub? (left right : Decimal) : Option Decimal :=
  if left.isZero && right.isZero then some right
  else add? left right.neg

/-- The product.  A product with zero is zero without fraction digits, and so is one of
two coefficients below `2 ^ 32` that has more than 47 fraction digits.  Other products of
two such coefficients lose their sign when they round to zero; with a longer coefficient
the sign stays. -/
def mul? (left right : Decimal) : Option Decimal :=
  if left.isZero || right.isZero then some zero
  else
    let negative := left.negative != right.negative
    let product := left.coefficient * right.coefficient
    let scale := left.scale + right.scale
    if left.coefficient < twoPow 32 && right.coefficient < twoPow 32 then
      if 47 < scale then some zero else fit? negative product scale
    else
      (fit? negative product scale).map ({ · with negative })

/-! ## Quotients -/

/-- The most digits, at most `limit`, by which a coefficient can be extended and still
have room. -/
def roomFor (coefficient : Nat) : Nat → Nat
  | 0 => 0
  | limit + 1 =>
      if coefficient * tenPow (limit + 1) < twoPow 96 then limit + 1 else roomFor coefficient limit

/-- A quotient under construction: its digits so far, what is left of the dividend, and
its scale, which is negative while digits before the point are still missing. -/
structure LongDivision where
  quotient : Nat
  remainder : Nat
  scale : Int

namespace LongDivision

/-- The most digits that a quotient is extended by at once. -/
def stepDigits : Nat := 9

/-- A quotient one digit too long for a coefficient, rounded to one digit less; the
digits not computed count as more than nothing when `inexact` holds. -/
def dropDigit? (quotient : Nat) (scale : Int) (inexact : Bool) : Option LongDivision :=
  if scale ≤ 0 then none
  else
    let last := quotient % 10
    let kept := quotient / 10
    let up := 5 < last || (last == 5 && (inexact || kept % 2 == 1))
    some ⟨if up then kept + 1 else kept, 0, scale - 1⟩

/-- The last step, when there is no room for more digits: half-even rounding. -/
def finish? (state : LongDivision) (divisor : Nat) : Option LongDivision :=
  let twice := 2 * state.remainder
  if divisor < twice || (twice == divisor && state.quotient % 2 == 1) then
    if state.quotient + 1 < twoPow 96 then some { state with quotient := state.quotient + 1 }
    else dropDigit? (state.quotient + 1) state.scale true
  else
    some state

/-- Extends the quotient until it is exact or full.  A quotient that is full before all of
its digits before the point are there has no value.  The answer also says whether a
remainder was ever met, in which case the digits gained are trimmed afterwards. -/
def run? (divisor : Nat) : Nat → LongDivision → Bool → Option (LongDivision × Bool)
  | 0, state, extended => some (state, extended)
  | fuel + 1, state, extended =>
      if state.remainder = 0 && 0 ≤ state.scale then some (state, extended)
      else
        let digits :=
          if state.remainder = 0 then min stepDigits (-state.scale).toNat
          else if state.scale = 28 then 0
          else roomFor state.quotient (min stepDigits (28 - state.scale).toNat)
        let extended := extended || state.remainder != 0
        if state.remainder ≠ 0 ∧ digits < stepDigits ∧ state.scale + digits < 0 then none
        else if digits = 0 then (state.finish? divisor).map (·, extended)
        else
          let power := tenPow digits
          let dividend := state.remainder * power
          let lengthened := state.quotient * power
          let quotient := lengthened + dividend / divisor
          if twoPow 96 ≤ lengthened then none
          else if twoPow 96 ≤ quotient then
            (dropDigit? quotient (state.scale + digits) (dividend % divisor != 0)).map (·, extended)
          else
            run? divisor fuel ⟨quotient, dividend % divisor, state.scale + digits⟩ extended

/-- Removes `count` zeros from the end of the quotient, if it has as many and its scale
allows it. -/
def dropZeros (count : Nat) (state : LongDivision) : LongDivision :=
  if (count : Int) ≤ state.scale ∧ state.quotient % tenPow count = 0 then
    { state with quotient := state.quotient / tenPow count, scale := state.scale - count }
  else
    state

/-- Removes eight zeros at a time while the low 32 bits of the quotient are clear. -/
def dropEights : Nat → LongDivision → LongDivision
  | 0, state => state
  | fuel + 1, state =>
      if state.quotient % twoPow 32 = 0 ∧ 8 ≤ state.scale ∧ state.quotient % tenPow 8 = 0 then
        dropEights fuel (state.dropZeros 8)
      else
        state

/-- Trims an extended quotient: blocks of eight zeros, then at most four, two and one
more. -/
def trim (state : LongDivision) : LongDivision :=
  ((dropEights 4 state).dropZeros 4 |>.dropZeros 2).dropZeros 1

end LongDivision

/-- The quotient of a division by a number that is not zero. -/
def div? (left right : Decimal) : Option Decimal :=
  if right.isZero then none
  else if left.isZero then some zero
  else
    let start : LongDivision :=
      ⟨left.coefficient / right.coefficient, left.coefficient % right.coefficient,
        (left.scale : Int) - right.scale⟩
    match LongDivision.run? right.coefficient 64 start false with
    | none => none
    | some (state, extended) =>
        let state := if extended then state.trim else state
        ofParts? (left.negative != right.negative) state.quotient state.scale.toNat

/-! ## Remainders -/

/-- One step of a long division in base `2 ^ 32` by a divisor of exactly 96 bits: what is
left after the next word of the dividend.  The digit of the quotient is one word, so when
the leading words of what is divided and of the divisor agree, the carry out of that digit
is lost, and with it the leading word. -/
def remainderStep (divisor remainder word : Nat) : Nat :=
  let window := remainder * twoPow 32 + word
  if window / twoPow 96 < divisor / twoPow 64 then window % divisor
  else window % twoPow 96 % divisor

/-- What a long division by a divisor of exactly 96 bits leaves, leading words first. -/
def remainderByWords (divisor dividend : Nat) : Nat :=
  if dividend < twoPow 32 then remainderStep divisor 0 dividend
  else
    remainderStep divisor (remainderByWords divisor (dividend / twoPow 32))
      (dividend % twoPow 32)
termination_by dividend
decreasing_by
  have words : 0 < twoPow 32 := twoPow_pos 32
  exact Nat.div_lt_self (by omega) (by decide)

/-- The remainder of two coefficients of one scale.  A divisor of more than 64 bits is
first shifted to 96 bits, and the dividend with it. -/
def coefficientRemainder (dividend divisor : Nat) : Nat :=
  if divisor < twoPow 64 then dividend % divisor
  else
    let shift := twoPow (95 - Nat.log2 divisor)
    remainderByWords (divisor * shift) (dividend * shift) / shift

/-- The remainder of the division that truncates toward zero, with the sign of the
dividend.  A dividend of smaller magnitude is its own remainder, and equal magnitudes
leave a zero without fraction digits. -/
def rem? (left right : Decimal) : Option Decimal :=
  if right.isZero then none
  else if left.isZero then some zero
  else
    match compareNumber left.abs right.abs with
    | .eq => some zero
    | .lt => some left
    | .gt =>
        let scale := max left.scale right.scale
        ofParts? left.negative
          (coefficientRemainder (left.coefficient * tenPow (scale - left.scale))
            (right.coefficient * tenPow (scale - right.scale)))
          scale

/-- The decimal with the given scale, rounding a half away from zero.  Raising the scale
stops early when the coefficient has no room. -/
def rescale (d : Decimal) (scale : Nat) : Decimal :=
  let target := min scale 28
  if d.scale ≤ target then
    let added := if d.isZero then target - d.scale else roomFor d.coefficient (target - d.scale)
    match ofParts? false (d.coefficient * tenPow added) (d.scale + added) with
    | some result => { result with negative := d.negative }
    | none => d
  else
    let divisor := tenPow (d.scale - target)
    match ofParts? false ((2 * d.coefficient + divisor) / (2 * divisor)) target with
    | some result => { result with negative := d.negative }
    | none => d

end ScalarSql.Decimal
