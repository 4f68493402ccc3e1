import ScalarSql.Proofs.Columnar.Decimal
import ScalarSql.Proofs.Expr.Narrowing

/-!
# Rounded decimals in cells

A cell has a fixed number of fraction digits.  A decimal with more digits than that is rounded
when it is written, a half away from zero, and nothing reports the loss.  A decimal with fewer
digits gets zeros, and is refused if it has no room for them, `Decimal.toCell_eq`.

`Decimal.read_toCell` says what a decimal is read back as: the multiple of `10 ^ -10` that is
closest to it.  This is the same number if and only if the decimal is such a multiple itself.
-/

set_option autoImplicit false

namespace ScalarSql

/-! ## Halves away from zero -/

/-- The integer closest to a number, where a half goes away from zero. -/
def halfAway (number : ℚ) : ℤ := if 0 ≤ number then ⌊number + 1 / 2⌋ else ⌈number - 1 / 2⌉

theorem halfAway_intCast (whole : ℤ) : halfAway whole = whole := by
  unfold halfAway
  split
  · rw [Int.floor_eq_iff]
    constructor <;> linarith
  · rw [Int.ceil_eq_iff]
    constructor <;> linarith

theorem halfAway_neg {number : ℚ} (nonneg : 0 ≤ number) :
    halfAway (-number) = -halfAway number := by
  unfold halfAway
  rw [if_pos nonneg]
  split
  · next nonpos =>
      rw [show number = 0 by linarith, neg_zero, zero_add, Int.floor_eq_zero_iff.mpr]
      · rfl
      · norm_num
  · rw [← Int.ceil_neg, neg_add']

/-- A quotient of natural numbers is rounded by adding half of the divisor. -/
theorem halfAway_div (dividend : ℕ) {divisor : ℕ} (positive : 0 < divisor) :
    halfAway (dividend / divisor) = ((2 * dividend + divisor) / (2 * divisor) : ℕ) := by
  have nonzero : (divisor : ℚ) ≠ 0 := by positivity
  have doubled : (dividend / divisor + 1 / 2 : ℚ)
      = ((2 * dividend + divisor : ℕ) : ℚ) / (2 * divisor : ℕ) := by
    push_cast
    field_simp
  rw [halfAway, if_pos (by positivity), doubled, Rat.floor_natCast_div_natCast, Int.natCast_div]

namespace Decimal

/-! ## Writing -/

/-- **Fraction digits beyond the scale** are rounded away, and the rest always has room. -/
theorem rescale_of_long {d : Decimal} (long : exportScale < d.scale) :
    (d.rescale exportScale).negative = d.negative ∧
      (d.rescale exportScale).coefficient
        = (2 * d.coefficient + tenPow (d.scale - exportScale))
          / (2 * tenPow (d.scale - exportScale)) ∧
      (d.rescale exportScale).scale = exportScale := by
  have target : min exportScale 28 = exportScale := rfl
  have several : 2 ≤ tenPow (d.scale - exportScale) := by
    obtain ⟨more, digits⟩ := Nat.exists_eq_add_one.mpr (Nat.sub_pos_of_lt long)
    have positive := tenPow_pos more
    have ten : tenPow 1 = 10 := rfl
    rw [digits, tenPow_add, ten]
    omega
  have fits : (2 * d.coefficient + tenPow (d.scale - exportScale))
      / (2 * tenPow (d.scale - exportScale)) < twoPow 96 := by
    generalize tenPow (d.scale - exportScale) = divisor at several
    apply Nat.div_lt_of_lt_mul
    calc 2 * d.coefficient + divisor
        < 2 * twoPow 96 + divisor * twoPow 96 := by
          have bound := d.coefficient_lt
          have weight := Nat.le_mul_of_pos_right divisor (twoPow_pos 96)
          omega
      _ = (2 + divisor) * twoPow 96 := by rw [Nat.add_mul]
      _ ≤ 2 * divisor * twoPow 96 := Nat.mul_le_mul_right _ (by omega)
  have inRange : exportScale ≤ 28 := by decide
  simp only [rescale, target, if_neg (Nat.not_le.mpr long), ofParts?,
    dif_pos (And.intro fits inRange), and_self]

/-- A decimal has room if and only if it reaches the scale of cells. -/
theorem scale_rescale_iff (d : Decimal) :
    (d.rescale exportScale).scale = exportScale ↔ d.HasRoom := by
  by_cases short : d.scale ≤ exportScale
  · obtain ⟨added, atMost, fits, full, -, -, scale⟩ := rescale_spec short
    rw [scale]
    constructor
    · intro reached
      rwa [show added = exportScale - d.scale by omega] at fits
    · intro room
      rw [full room]
      omega
  · have long := Nat.not_le.mp short
    refine iff_of_true (rescale_of_long long).2.2 ?_
    rw [HasRoom, Nat.sub_eq_zero_of_le (Nat.le_of_lt long)]
    exact (Nat.mul_one d.coefficient).symm ▸ d.coefficient_lt

theorem toCell_eq_ok {d : Decimal} (room : d.HasRoom) :
    d.toCell = .ok (.number (d.rescale exportScale).signedCoefficient) := by
  rw [toCell, if_pos ((scale_rescale_iff d).mpr room)]

theorem toCell_eq_error {d : Decimal} (wide : ¬ d.HasRoom) : d.toCell = .error d.noRoom := by
  rw [toCell, if_neg (mt (scale_rescale_iff d).mp wide), noRoom]

/-- **What is written** is the number of the decimal in steps of the scale of cells, rounded. -/
theorem signedCoefficient_rescale {d : Decimal} (room : d.HasRoom) :
    (d.rescale exportScale).signedCoefficient
      = halfAway (d.value * (tenPow exportScale : ℕ)) := by
  by_cases short : d.scale ≤ exportScale
  · obtain ⟨added, -, -, full, negative, coefficient, -⟩ := rescale_spec short
    have digits : tenPow exportScale = tenPow d.scale * tenPow (exportScale - d.scale) := by
      rw [← tenPow_add, Nat.add_sub_cancel' short]
    have whole : d.value * (tenPow exportScale : ℕ)
        = ((d.signedCoefficient * tenPow (exportScale - d.scale) : ℤ) : ℚ) := by
      have nonzero : ((tenPow d.scale : ℕ) : ℚ) ≠ 0 := by
        exact_mod_cast (tenPow_pos d.scale).ne'
      rw [value, digits]
      push_cast
      field_simp
    rw [whole, halfAway_intCast, signedCoefficient, negative, coefficient, full room,
      signedCoefficient]
    split <;> simp
  · have long := Nat.not_le.mp short
    obtain ⟨negative, coefficient, -⟩ := rescale_of_long long
    have digits : tenPow d.scale = tenPow (d.scale - exportScale) * tenPow exportScale := by
      rw [← tenPow_add, Nat.sub_add_cancel (Nat.le_of_lt long)]
    have quotient : ((d.coefficient : ℤ) / (tenPow d.scale : ℕ) : ℚ) * (tenPow exportScale : ℕ)
        = (d.coefficient : ℚ) / (tenPow (d.scale - exportScale) : ℕ) := by
      have nonzero : ((tenPow exportScale : ℕ) : ℚ) ≠ 0 := by
        exact_mod_cast (tenPow_pos exportScale).ne'
      rw [digits]
      push_cast
      field_simp
    rw [signedCoefficient, negative, coefficient, value_eq]
    split
    · rw [neg_mul, quotient, halfAway_neg (by positivity),
        halfAway_div d.coefficient (tenPow_pos _)]
    · rw [quotient, halfAway_div d.coefficient (tenPow_pos _)]

/-! ## Reading -/

theorem cast_units (d : Decimal) : (d.units : ℚ) = d.value * (tenPow 28 : ℕ) := by
  have digits : tenPow 28 = tenPow d.scale * tenPow (28 - d.scale) := by
    rw [← tenPow_add, Nat.add_sub_cancel' d.scale_le]
  have nonzero : ((tenPow d.scale : ℕ) : ℚ) ≠ 0 := by exact_mod_cast (tenPow_pos d.scale).ne'
  rw [units, value, digits]
  push_cast
  field_simp

/-- Two decimals are the same number if they have one value. -/
theorem sameNumber_iff {left right : Decimal} :
    left.sameNumber right = true ↔ left.value = right.value := by
  have nonzero : ((tenPow 28 : ℕ) : ℚ) ≠ 0 := by exact_mod_cast (tenPow_pos 28).ne'
  rw [sameNumber, beq_iff_eq, ← Int.cast_inj (α := ℚ), cast_units, cast_units,
    mul_left_inj' nonzero]

/-- **A decimal with room is read back rounded** to the fraction digits of cells, and is the same
number if it has no more of them. -/
theorem read_toCell {d : Decimal} (room : d.HasRoom) :
    ∃ restored, ofCell (d.rescale exportScale).signedCoefficient exportScale = .ok restored ∧
      restored.value = halfAway (d.value * (tenPow exportScale : ℕ)) / (tenPow exportScale : ℕ) ∧
      (d.sameNumber restored = true ↔ ∃ steps : ℤ, d.value = steps / (tenPow exportScale : ℕ)) := by
  have nonzero : ((tenPow exportScale : ℕ) : ℚ) ≠ 0 := by
    exact_mod_cast (tenPow_pos exportScale).ne'
  have magnitude : (d.rescale exportScale).signedCoefficient.natAbs < twoPow 96 := by
    rw [natAbs_signedCoefficient]
    exact (d.rescale exportScale).coefficient_lt
  obtain ⟨restored, read, coefficient, scale⟩ :=
    ofCell_eq_ok magnitude (show exportScale ≤ 28 by decide)
  have rounded : restored.value
      = halfAway (d.value * (tenPow exportScale : ℕ)) / (tenPow exportScale : ℕ) := by
    rw [value, coefficient, scale, signedCoefficient_rescale room]
  refine ⟨restored, read, rounded, ?_⟩
  rw [sameNumber_iff, rounded]
  constructor
  · intro same
    exact ⟨_, same⟩
  · rintro ⟨steps, exact⟩
    rw [exact, div_mul_cancel₀ _ nonzero, halfAway_intCast]

end Decimal

end ScalarSql
