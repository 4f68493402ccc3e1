import ScalarSql.Number.BoundedInt

/-!
# Ranges of bounded integers

A mathematical integer becomes a bounded one as it is if and only if it is in range.  Out of
range there is none, `BoundedInt.ofInt?_eq_none`, or one that is congruent.
-/

set_option autoImplicit false

namespace ScalarSql.BoundedInt

variable {bits : Nat}

/-- The integer is in the two's complement range of a number of bits. -/
def InRange (bits : Nat) (whole : Int) : Prop :=
  -(twoPow (bits - 1) : Int) ≤ whole ∧ whole < (twoPow (bits - 1) : Int)

instance (bits : Nat) (whole : Int) : Decidable (InRange bits whole) :=
  inferInstanceAs (Decidable (_ ∧ _))

theorem val_inRange (number : BoundedInt bits) : InRange bits number.val :=
  ⟨number.lower, number.upper⟩

theorem ofInt?_of_inRange {whole : Int} (inRange : InRange bits whole) :
    ofInt? whole = some (⟨whole, inRange.1, inRange.2⟩ : BoundedInt bits) := dif_pos inRange

theorem ofInt?_of_not_inRange {whole : Int} (outside : ¬ InRange bits whole) :
    (ofInt? whole : Option (BoundedInt bits)) = none := dif_neg outside

theorem ofInt?_eq_none {whole : Int} : (ofInt? whole : Option (BoundedInt bits)) = none ↔
    whole < -(twoPow (bits - 1) : Int) ∨ (twoPow (bits - 1) : Int) ≤ whole := by
  unfold ofInt?
  split <;> simp <;> omega

theorem val_widen (value : BoundedInt 32) : value.widen.val = value.val := rfl

/-- A number that is small enough stays as it is. -/
theorem val_wrap_of_lt {number : Nat} (small : number < twoPow 63) :
    (wrap number : BoundedInt 64).val = number := by
  have inRange : ((number : Int) + twoPow 63) % (2 * twoPow 63) = number + twoPow 63 :=
    Int.emod_eq_of_lt (by omega) (by omega)
  show ((number : Int) + twoPow 63) % (2 * twoPow 63) - twoPow 63 = number
  rw [inRange, Int.add_sub_cancel]

end ScalarSql.BoundedInt
