import ScalarSql.Number.Natural

/-!
# Integers of a fixed width

`INT` and `BIGINT` values are mathematical integers together with the fact that
they lie in the two's complement range of their width.  Arithmetic is done on
the mathematical integers; `BoundedInt.ofInt?` then says whether the result is
still in range, and `BoundedInt.wrap` gives the congruent integer in range for
the few functions that are meant to wrap around.
-/

set_option autoImplicit false

namespace ScalarSql

/-- An integer in the two's complement range of `bits` bits. -/
structure BoundedInt (bits : Nat) where
  val : Int
  lower : -(twoPow (bits - 1) : Int) ≤ val
  upper : val < (twoPow (bits - 1) : Int)
  deriving DecidableEq

namespace BoundedInt

variable {bits : Nat}

/-- The integer itself, when it is in range. -/
def ofInt? (value : Int) : Option (BoundedInt bits) :=
  if h : -(twoPow (bits - 1) : Int) ≤ value ∧ value < (twoPow (bits - 1) : Int) then
    some ⟨value, h.1, h.2⟩
  else
    none

/-- The integer in range that is congruent to `value` modulo `2 ^ bits`. -/
def wrap (value : Int) : BoundedInt bits :=
  let half : Int := twoPow (bits - 1)
  let shifted := (value + half) % (2 * half) - half
  have positive := twoPow_pos (bits - 1)
  have nonneg := Int.emod_nonneg (value + half) (show 2 * half ≠ 0 by omega)
  have bounded := Int.emod_lt_of_pos (value + half) (show 0 < 2 * half by omega)
  ⟨shifted, by omega, by omega⟩

instance : Inhabited (BoundedInt bits) := ⟨wrap 0⟩

/-- Every integer of 32 bits is one of 64 bits. -/
def widen (value : BoundedInt 32) : BoundedInt 64 :=
  have le : twoPow (32 - 1) ≤ twoPow (64 - 1) := by decide
  ⟨value.val, by have := value.lower; omega, by have := value.upper; omega⟩

/-- The decimal digits of the integer, after a minus sign if it is negative. -/
def text (value : BoundedInt bits) : String :=
  if value.val < 0 then "-" ++ Nat.repr value.val.natAbs else Nat.repr value.val.natAbs

theorem ext_val {left right : BoundedInt bits} (h : left.val = right.val) : left = right := by
  cases left; cases right; cases h; rfl

theorem ofInt?_val (value : BoundedInt bits) : ofInt? value.val = some value := by
  simp [ofInt?, value.lower, value.upper]

theorem val_of_ofInt? {value : Int} {result : BoundedInt bits}
    (h : ofInt? value = some result) : result.val = value := by
  unfold ofInt? at h
  split at h
  · cases h; rfl
  · cases h

end BoundedInt

end ScalarSql
