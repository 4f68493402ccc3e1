import ScalarSql.Value.Basic

/-!
# Numbers and their texts

An integer is written with its digits and a sign, a decimal with its digits, a sign and a
point in front of as many digits as its scale says.  Each can be read off its text:
`BoundedInt.eq_of_digits`, `Decimal.eq_of_digits`.
-/

set_option autoImplicit false

namespace ScalarSql

theorem toDigits_injective {left right : Nat}
    (same : Nat.toDigits 10 left = Nat.toDigits 10 right) : left = right := by
  rw [← Nat.ofDigitChars_ten_toDigits (n := left), same, Nat.ofDigitChars_ten_toDigits]

namespace BoundedInt

variable {bits : Nat}

/-- The digits of the magnitude. -/
def digits (value : BoundedInt bits) : List Char := Nat.toDigits 10 value.val.natAbs

theorem toList_text (value : BoundedInt bits) :
    value.text.toList = (if value.val < 0 then ['-'] else []) ++ value.digits := by
  unfold text digits
  split <;> simp [Nat.toList_repr]

theorem isDigit_of_mem_digits {value : BoundedInt bits} {c : Char} (member : c ∈ value.digits) :
    c.isDigit = true :=
  Nat.isDigit_of_mem_toDigits (by decide) (by decide) member

theorem digits_ne_nil (value : BoundedInt bits) : value.digits ≠ [] := Nat.toDigits_ne_nil

/-- Integers of the same sign and digits are equal, of whatever width. -/
theorem val_eq_of_digits {otherBits : Nat} {left : BoundedInt bits}
    {right : BoundedInt otherBits} (signs : (left.val < 0) ↔ (right.val < 0))
    (same : left.digits = right.digits) : left.val = right.val := by
  have magnitudes : left.val.natAbs = right.val.natAbs := toDigits_injective same
  omega

end BoundedInt

namespace Decimal

/-- The digits of the coefficient, with zeros in front so that one stands before the
point. -/
def digits (d : Decimal) : List Char :=
  List.replicate (d.scale + 1 - (Nat.toDigits 10 d.coefficient).length) '0'
    ++ Nat.toDigits 10 d.coefficient

/-- The digits before the point. -/
def wholeDigits (d : Decimal) : List Char := d.digits.take (d.digits.length - d.scale)

/-- The digits after the point. -/
def fractionDigits (d : Decimal) : List Char := d.digits.drop (d.digits.length - d.scale)

theorem toList_text (d : Decimal) :
    d.text.toList = (if d.negative then ['-'] else []) ++ d.wholeDigits
      ++ (if d.scale = 0 then [] else '.' :: d.fractionDigits) := by
  simp only [text, String.toList_ofList, wholeDigits, fractionDigits, digits]

theorem isDigit_of_mem_digits {d : Decimal} {c : Char} (member : c ∈ d.digits) :
    c.isDigit = true := by
  rcases List.mem_append.mp member with zero | digit
  · rw [List.eq_of_mem_replicate zero]
    decide
  · exact Nat.isDigit_of_mem_toDigits (by decide) (by decide) digit

theorem scale_lt_length_digits (d : Decimal) : d.scale < d.digits.length := by
  simp only [digits, List.length_append, List.length_replicate]
  omega

theorem wholeDigits_ne_nil (d : Decimal) : d.wholeDigits ≠ [] := by
  have := d.scale_lt_length_digits
  rw [← List.length_pos_iff, wholeDigits, List.length_take]
  omega

theorem length_fractionDigits (d : Decimal) : d.fractionDigits.length = d.scale := by
  have := d.scale_lt_length_digits
  rw [fractionDigits, List.length_drop]
  omega

/-- Decimals of the same sign and digits are equal. -/
theorem eq_of_digits {left right : Decimal} (signs : left.negative = right.negative)
    (wholes : left.wholeDigits = right.wholeDigits)
    (fractions : left.fractionDigits = right.fractionDigits) : left = right := by
  have scales : left.scale = right.scale := by
    rw [← length_fractionDigits, fractions, length_fractionDigits]
  have digits : left.digits = right.digits :=
    calc left.digits = left.wholeDigits ++ left.fractionDigits :=
          (List.take_append_drop ..).symm
      _ = right.wholeDigits ++ right.fractionDigits := by rw [wholes, fractions]
      _ = right.digits := List.take_append_drop ..
  have value : ∀ d : Decimal, Nat.ofDigitChars 10 d.digits 0 = d.coefficient := by
    intro d
    rw [Decimal.digits, Nat.ofDigitChars_append, Nat.ofDigitChars_replicate_zero, Nat.mul_zero,
      Nat.ofDigitChars_ten_toDigits]
  have coefficients : left.coefficient = right.coefficient := by
    rw [← value left, digits, value right]
  cases left
  cases right
  simp_all

end Decimal

end ScalarSql
