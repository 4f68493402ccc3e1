import ScalarSql.Columnar.Encoding
import ScalarSql.Proofs.Value.Keys

/-!
# Decimals in cells

An exported decimal is an integer under a fixed scale.  A decimal with no more fraction
digits than that is written by raising its scale, which stops early if the coefficient has no
room for all the zeros, `Decimal.rescale_spec`.  So a decimal is either refused, or its cell
is read back as the same number, `Decimal.ofCell_of_hasRoom`.
-/

set_option autoImplicit false

namespace ScalarSql

namespace Decimal

/-- The decimal can be written with as many fraction digits as exported decimals have. -/
def HasRoom (d : Decimal) : Prop := d.coefficient * tenPow (exportScale - d.scale) < twoPow 96

/-- The error for a decimal that cannot be exported. -/
def noRoom (d : Decimal) : Error :=
  .schema (.decimalTooWide d.text exportPrecision exportScale)

/-- A coefficient is extended by digits that it has room for, and by all of them if there is
room. -/
theorem roomFor_spec {coefficient : Nat} (bound : coefficient < twoPow 96) (limit : Nat) :
    coefficient * tenPow (roomFor coefficient limit) < twoPow 96 ∧
      roomFor coefficient limit ≤ limit ∧
      (coefficient * tenPow limit < twoPow 96 → roomFor coefficient limit = limit) := by
  induction limit with
  | zero => exact ⟨(Nat.mul_one coefficient).symm ▸ bound, Nat.le_refl 0, fun _ => rfl⟩
  | succ limit ih =>
      rw [roomFor]
      split
      · next fits => exact ⟨fits, Nat.le_refl _, fun _ => rfl⟩
      · next wide => exact ⟨ih.1, Nat.le_succ_of_le ih.2.1, fun fits => absurd fits wide⟩

/-- **Raising the scale** to that of exported decimals gets as far as there is room. -/
theorem rescale_spec {d : Decimal} (short : d.scale ≤ exportScale) :
    ∃ added, added ≤ exportScale - d.scale ∧ d.coefficient * tenPow added < twoPow 96 ∧
      (d.HasRoom → added = exportScale - d.scale) ∧
      (d.rescale exportScale).negative = d.negative ∧
      (d.rescale exportScale).coefficient = d.coefficient * tenPow added ∧
      (d.rescale exportScale).scale = d.scale + added := by
  have choice : ∃ added,
      (if d.isZero then exportScale - d.scale
        else roomFor d.coefficient (exportScale - d.scale)) = added ∧
      added ≤ exportScale - d.scale ∧ d.coefficient * tenPow added < twoPow 96 ∧
      (d.HasRoom → added = exportScale - d.scale) := by
    cases zero : d.isZero with
    | true =>
        refine ⟨_, rfl, Nat.le_refl _, ?_, fun _ => rfl⟩
        rw [eq_of_beq zero, Nat.zero_mul]
        exact twoPow_pos 96
    | false => exact ⟨_, rfl, (roomFor_spec d.coefficient_lt _).2.1,
        (roomFor_spec d.coefficient_lt _).1, (roomFor_spec d.coefficient_lt _).2.2⟩
  obtain ⟨added, chosen, atMost, fits, full⟩ := choice
  have scaleBound : d.scale + added ≤ 28 := by
    have limit : exportScale = 10 := rfl
    omega
  have target : min exportScale 28 = exportScale := rfl
  refine ⟨added, atMost, fits, full, ?_⟩
  simp only [rescale, target, if_pos short, chosen, ofParts?, dif_pos (And.intro fits scaleBound),
    and_self]

theorem toCell_of_hasRoom {d : Decimal} (short : d.scale ≤ exportScale) (room : d.HasRoom) :
    d.toCell = .ok (.number (d.signedCoefficient * tenPow (exportScale - d.scale))) := by
  obtain ⟨added, -, -, full, negative, coefficient, scale⟩ := rescale_spec short
  rw [toCell, scale, full room, Nat.add_sub_cancel' short, if_pos rfl, signedCoefficient,
    negative, coefficient, full room, signedCoefficient, Int.natCast_mul]
  split
  · rw [Int.neg_mul]
  · rfl

theorem toCell_of_not_hasRoom {d : Decimal} (short : d.scale ≤ exportScale)
    (wide : ¬ d.HasRoom) : d.toCell = .error d.noRoom := by
  obtain ⟨added, atMost, fits, -, -, -, scale⟩ := rescale_spec short
  have lower : ¬ d.scale + added = exportScale := by
    intro reached
    apply wide
    rwa [show added = exportScale - d.scale by omega] at fits
  rw [toCell, scale, if_neg lower, noRoom]

theorem natAbs_signedCoefficient (d : Decimal) : d.signedCoefficient.natAbs = d.coefficient := by
  rw [signedCoefficient]
  split
  · rw [Int.natAbs_neg, Int.natAbs_natCast]
  · rw [Int.natAbs_natCast]

/-- A cell is read if its number has room and the scale is that of a decimal. -/
theorem ofCell_eq_ok {raw : Int} {scale : Nat} (magnitude : raw.natAbs < twoPow 96)
    (bound : scale ≤ 28) :
    ∃ d, ofCell raw scale = .ok d ∧ d.signedCoefficient = raw ∧ d.scale = scale := by
  have inRange : raw.natAbs < twoPow 96 ∧ (scale : Int).toNat ≤ 28 :=
    ⟨magnitude, by rwa [Int.toNat_natCast]⟩
  rw [ofCell, if_neg (by omega), ofParts?, dif_pos inRange]
  refine ⟨_, rfl, ?_, Int.toNat_natCast scale⟩
  simp only [signedCoefficient, Bool.and_eq_true, decide_eq_true_eq, bne_iff_ne]
  split <;> omega

/-- **A decimal with room is read back as the same number.** -/
theorem ofCell_of_hasRoom {d : Decimal} (short : d.scale ≤ exportScale) (room : d.HasRoom) :
    ∃ restored, ofCell (d.signedCoefficient * tenPow (exportScale - d.scale)) exportScale
        = .ok restored ∧ d.sameNumber restored = true := by
  have magnitude : (d.signedCoefficient * tenPow (exportScale - d.scale)).natAbs < twoPow 96 := by
    rw [Int.natAbs_mul, natAbs_signedCoefficient, Int.natAbs_natCast]
    exact room
  have limit : exportScale ≤ 28 := by decide
  obtain ⟨restored, read, coefficient, scale⟩ := ofCell_eq_ok magnitude limit
  have digits : 28 - d.scale = exportScale - d.scale + (28 - exportScale) := by omega
  refine ⟨restored, read, ?_⟩
  rw [sameNumber, beq_iff_eq, units, units, coefficient, scale, digits, tenPow_add,
    Int.natCast_mul, Int.mul_assoc]

end Decimal

end ScalarSql
