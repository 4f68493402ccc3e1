/-!
# Powers and quotients

The bounds of integers that are kept in bits, and the weights of decimal digits.  A quotient of
natural numbers is rounded to the nearest natural number, and a quotient that lies exactly
between two neighbours goes to the even one.
-/

set_option autoImplicit false

namespace ScalarSql

/-- Two to a power: how many numbers can be told apart with that many bits. -/
def twoPow (bits : Nat) : Nat := Nat.pow 2 bits

/-- Ten to a power: the weight of a digit that has that many digits behind it. -/
def tenPow (digits : Nat) : Nat := Nat.pow 10 digits

theorem twoPow_pos (bits : Nat) : 0 < twoPow bits := Nat.pow_pos (by decide)

theorem tenPow_pos (digits : Nat) : 0 < tenPow digits := Nat.pow_pos (by decide)

theorem tenPow_add (first second : Nat) : tenPow (first + second) = tenPow first * tenPow second :=
  Nat.pow_add 10 first second

/-- The quotient rounded to the nearest integer, an exact half to the even one. -/
def divideHalfEven (numerator denominator : Nat) : Nat :=
  let quotient := numerator / denominator
  let remainder := numerator % denominator
  if 2 * remainder < denominator then quotient
  else if 2 * remainder = denominator ∧ quotient % 2 = 0 then quotient
  else quotient + 1

end ScalarSql
