import ScalarSql.Decimal.Arithmetic
import ScalarSql.Double.Reading

/-!
# Decimals as text

A decimal is written with exactly as many fraction digits as its scale says.  It is read
from an optional sign and digits with at most one point, where an underscore may stand
after the first digit.  Fraction digits that no longer fit are cut, and the first of them
decides the rounding, half up.  An exponent may follow, which moves the point: a negative
one that asks for more than 28 places has no value in the exact reading and is rounded in
the other.
-/

set_option autoImplicit false

namespace ScalarSql.Decimal

/-- The text of a decimal. -/
def text (d : Decimal) : String :=
  let digits := Nat.toDigits 10 d.coefficient
  let padded := List.replicate (d.scale + 1 - digits.length) '0' ++ digits
  let whole := padded.take (padded.length - d.scale)
  let fraction := padded.drop (padded.length - d.scale)
  let sign := if d.negative then ['-'] else []
  String.ofList (sign ++ whole ++ (if d.scale = 0 then [] else '.' :: fraction))

/-- The digits read so far. -/
structure Scan where
  negative : Bool
  coefficient : Nat := 0
  scale : Nat := 0
  /-- Whether the point has been read. -/
  fractional : Bool := false
  /-- Whether a digit has been read. -/
  started : Bool := false

namespace Scan

/-- The decimal read, which needs at least one digit. -/
def finish? (scan : Scan) : Option Decimal :=
  if scan.started then ofParts? scan.negative scan.coefficient scan.scale else none

/-- The decimal when the fraction is cut before the rest of the text, which may hold
nothing but digits and underscores.  If rounding up fills the coefficient, one more digit
is given up. -/
def cut? (scan : Scan) (rest : List Char) : Option Decimal :=
  match (rest.filter (· != '_')).mapM digitValue? with
  | none => none
  | some [] => scan.finish?
  | some (digit :: _) =>
      if digit < 5 then scan.finish?
      else if scan.coefficient + 1 < twoPow 96 then
        ofParts? scan.negative (scan.coefficient + 1) scan.scale
      else if scan.scale = 0 then none
      else ofParts? scan.negative ((scan.coefficient + 5) / 10) (scan.scale - 1)

/-- Reads on from the characters that are left. -/
def run? (scan : Scan) : List Char → Option Decimal
  | [] => scan.finish?
  | c :: rest =>
      if scan.fractional && scan.scale == 28 then scan.cut? (c :: rest)
      else
        match digitValue? c with
        | some digit =>
            let coefficient := scan.coefficient * 10 + digit
            if coefficient < twoPow 96 then
              run? { scan with
                coefficient
                scale := if scan.fractional then scan.scale + 1 else scan.scale
                started := true } rest
            else if scan.fractional then scan.cut? (c :: rest)
            else none
        | none =>
            if c == '.' && !scan.fractional then run? { scan with fractional := true } rest
            else if c == '_' && scan.started then run? scan rest
            else none

end Scan

/-- The decimal that a text without an exponent writes. -/
def readPlain? (text : List Char) : Option Decimal :=
  let (negative, rest) := splitSign text
  Scan.run? { negative } rest

/-- The decimal with every zero at the end of the fraction dropped, after multiplying by
a power of ten of at most 28. -/
def raise? (d : Decimal) (power : Nat) : Option Decimal :=
  if 28 < power then none
  else
    let stepwise :=
      if power ≤ 19 then (ofParts? false (tenPow power) 0).bind (mul? d)
      else
        ((ofParts? false (tenPow 19) 0).bind (mul? d)).bind fun raised =>
          (ofParts? false (tenPow (power - 19)) 0).bind (mul? raised)
    stepwise.map normalized

/-- The same coefficient and sign under another scale. -/
def withScale? (d : Decimal) (scale : Nat) : Option Decimal :=
  if h : scale ≤ 28 then some { d with scale, scale_le := h } else none

/-- Digits with an optional plus sign, in the range of 32 bits. -/
def readPower? : List Char → Option Nat
  | '+' :: digits => (readDigits? digits).filter (· < twoPow 32)
  | digits => (readDigits? digits).filter (· < twoPow 32)

/-- The decimal with the point moved `power` places to the left, if it then has at most
28 fraction digits. -/
def lower? (d : Decimal) (power : Nat) : Option Decimal := withScale? d (d.scale + power)

/-- The decimal with the point moved at most 28 places to the left, rounded to 28 fraction
digits, a half away from zero. -/
def lowerRounded? (d : Decimal) (power : Nat) : Option Decimal :=
  if 28 < power then none
  else
    (lower? d power).or
      (let divisor := tenPow (d.scale + power - 28)
      (ofParts? false ((2 * d.coefficient + divisor) / (2 * divisor)) 28).map
        ({ · with negative := d.negative }))

/-- The decimal moved by the exponent that a text writes.  A positive exponent lowers the
scale as far as it goes and multiplies otherwise; a negative one moves the point by
`lower`. -/
def shift? (lower : Decimal → Nat → Option Decimal) (d : Decimal) : List Char → Option Decimal
  | '-' :: digits => (readPower? digits).bind (lower d)
  | digits =>
      (readPower? digits).bind fun power =>
        if power ≤ d.scale then withScale? d (d.scale - power) else raise? d power

/-- Whether a character starts an exponent. -/
def marksExponent (c : Char) : Bool :=
  c == 'e' || c == 'E'

/-- The decimal that a text writes, with `lower` for a negative exponent. -/
def readWith? (lower : Decimal → Nat → Option Decimal) (text : String) : Option Decimal :=
  let base := text.toList.takeWhile (!marksExponent ·)
  match text.toList.dropWhile (!marksExponent ·) with
  | [] => readPlain? base
  | _ :: exponent => (readPlain? base).bind (shift? lower · exponent)

/-- The decimal that a text writes, where a negative exponent may not ask for more than 28
fraction digits. -/
def readExact? (text : String) : Option Decimal := readWith? lower? text

/-- The decimal that a text writes, where a negative exponent rounds. -/
def read? (text : String) : Option Decimal := readWith? lowerRounded? text

end ScalarSql.Decimal
