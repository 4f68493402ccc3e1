import ScalarSql.Double.Basic

/-!
# The shortest decimal text of a double

A double is written with the fewest decimal digits that still read back as the same
double, and among those with the digits nearest to it.  The text is always
positional: there is no exponent form, a whole number has no decimal point, and the
sign of a negative zero is written.

The search is exact.  The double and the two midpoints to its neighbours are put on
one decimal grid, and for one, two, three and more digits the two grid points around
the double are tested against the midpoints.
-/

set_option autoImplicit false

namespace ScalarSql.Double

/-- A double with the midpoints to its neighbours, as natural numbers that all count
units of `10 ^ exponent`. -/
structure DecimalInterval where
  low : Nat
  value : Nat
  high : Nat
  exponent : Int
  /-- Whether the midpoints themselves read back as the double. -/
  closed : Bool

/-- The interval of the decimals that read back as the given positive double.  The
lower midpoint is nearer when the significand is a power of two. -/
def decimalInterval (significand : Nat) (exponent : Int) : DecimalInterval :=
  let lowerGap := if significand = twoPow 52 ∧ -1074 < exponent then 1 else 2
  let quarter := exponent - 2
  let scale (quarters : Nat) : Nat :=
    if 0 ≤ quarter then quarters * twoPow quarter.toNat else quarters * Nat.pow 5 (-quarter).toNat
  { low := scale (4 * significand - lowerGap)
    value := scale (4 * significand)
    high := scale (4 * significand + 2)
    exponent := if 0 ≤ quarter then 0 else quarter
    closed := significand % 2 == 0 }

namespace DecimalInterval

/-- Whether a candidate reads back as the double. -/
def contains (interval : DecimalInterval) (candidate : Nat) : Bool :=
  if interval.closed then interval.low ≤ candidate && candidate ≤ interval.high
  else interval.low < candidate && candidate < interval.high

/-- The multiple of `step` in the interval that is nearest to the double, if there is
one; an exact tie goes up. -/
def nearest? (interval : DecimalInterval) (step : Nat) : Option Nat :=
  let below := interval.value / step
  let above := below + 1
  match interval.contains (below * step), interval.contains (above * step) with
  | true, true =>
      if 2 * (interval.value - below * step) < step then some below else some above
  | true, false => some below
  | false, true => some above
  | false, false => none

/-- The shortest digits and the power of ten of the last one, trying coarser grids
first; the double itself is the answer on the finest grid. -/
def shortest (interval : DecimalInterval) : Nat → Nat × Int
  | 0 => (interval.value, interval.exponent)
  | power + 1 =>
      match interval.nearest? (tenPow (power + 1)) with
      | some digits => (digits, interval.exponent + (power + 1))
      | none => interval.shortest power

end DecimalInterval

/-- Digits without the zeros at their end, which are counted into the exponent. -/
def dropTrailingZeros (digits : List Char) (exponent : Int) : List Char × Int :=
  let zeros := (digits.reverse.takeWhile (· == '0')).length
  (digits.take (digits.length - zeros), exponent + zeros)

/-- The positional text of `digits * 10 ^ exponent`. -/
def positional (digits : List Char) (exponent : Int) : List Char :=
  if 0 ≤ exponent then digits ++ List.replicate exponent.toNat '0'
  else
    let places := (-exponent).toNat
    if digits.length ≤ places then
      '0' :: '.' :: (List.replicate (places - digits.length) '0' ++ digits)
    else
      digits.take (digits.length - places) ++ '.' :: digits.drop (digits.length - places)

/-- The shortest digits of a positive double and the power of ten of the last one. -/
def shortestDigits (significand : Nat) (exponent : Int) : List Char × Int :=
  let interval := decimalInterval significand exponent
  let (digits, power) := interval.shortest (Nat.toDigits 10 interval.value).length
  dropTrailingZeros (Nat.toDigits 10 digits) power

/-- The text of a double. -/
def text : Double → String
  | .nan => "NaN"
  | .infinite negative => if negative then "-inf" else "inf"
  | .finite negative significand exponent _ =>
      let sign := if negative then "-" else ""
      if significand = 0 then sign ++ "0"
      else
        let (digits, power) := shortestDigits significand exponent
        sign ++ String.ofList (positional digits power)

/-- The text of digits with one digit before the point and the power of ten after a
letter `e`. -/
def exponential (digits : List Char) (exponent : Int) : List Char :=
  let power := exponent + digits.length - 1
  let mantissa := match digits with
    | first :: second :: rest => first :: '.' :: second :: rest
    | _ => digits
  let sign := if power < 0 then ['-'] else []
  mantissa ++ 'e' :: sign ++ Nat.toDigits 10 power.natAbs

/-- The text of a double in a drawn table: whole numbers keep a zero after the point, and
numbers below `1e-5` or from `1e16` on are written with an exponent. -/
def tableText : Double → String
  | .nan => "NaN"
  | .infinite negative => if negative then "-inf" else "inf"
  | .finite negative significand exponent _ =>
      let sign := if negative then "-" else ""
      if significand = 0 then sign ++ "0.0"
      else
        let (digits, power) := shortestDigits significand exponent
        let point := power + digits.length
        let shown :=
          if -5 < point ∧ point ≤ 16 then
            if 0 ≤ power then positional digits power ++ ['.', '0'] else positional digits power
          else
            exponential digits power
        sign ++ String.ofList shown

end ScalarSql.Double
