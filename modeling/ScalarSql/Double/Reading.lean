import ScalarSql.Double.Arithmetic
import ScalarSql.Number.Digits

/-!
# Reading a double

A double is written as an optional sign followed by `inf`, `infinity` or `nan` in any
letter case, or by decimal digits with at most one point and an optional exponent.
At least one digit must stand before the exponent.  The text is read exactly and then
rounded once.
-/

set_option autoImplicit false

namespace ScalarSql

namespace Double

/-- The double nearest to `digits * 10 ^ exponent`.  Magnitudes that are certainly
beyond the largest double, or certainly below half the least one, are decided without
writing out the power. -/
def ofScientific (negative : Bool) (digits : List Char) (exponent : Int) : Double :=
  let significant := digits.dropWhile (· == '0')
  let magnitude : Int := significant.length + exponent
  if significant.isEmpty then zero negative
  else if 400 < magnitude then .infinite negative
  else if magnitude < -400 then zero negative
  else if 0 ≤ exponent then ofRatio negative (ofDigits significant * tenPow exponent.toNat) 1
  else ofRatio negative (ofDigits significant) (tenPow (-exponent).toNat)

/-- The exponent that may follow the digits: nothing, or a letter `e` and an integer. -/
def readExponent? : List Char → Option Int
  | [] => some 0
  | c :: rest => if c == 'e' || c == 'E' then readInt? rest else none

/-- A double without its sign. -/
def readMagnitude? (negative : Bool) (text : List Char) : Option Double :=
  let lowered := text.map Char.toLower
  if lowered == "inf".toList || lowered == "infinity".toList then some (.infinite negative)
  else if lowered == "nan".toList then some .nan
  else
    let whole := text.takeWhile isDigit
    let afterWhole := text.dropWhile isDigit
    let (fraction, afterFraction) :=
      match afterWhole with
      | '.' :: rest => (rest.takeWhile isDigit, rest.dropWhile isDigit)
      | rest => ([], rest)
    if whole.isEmpty && fraction.isEmpty then none
    else
      (readExponent? afterFraction).map fun exponent =>
        ofScientific negative (whole ++ fraction) (exponent - fraction.length)

/-- The double that a text writes. -/
def read? (text : String) : Option Double :=
  let (negative, rest) := splitSign text.toList
  readMagnitude? negative rest

end Double

end ScalarSql
