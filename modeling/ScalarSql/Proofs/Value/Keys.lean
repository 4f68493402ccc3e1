import Mathlib.Tactic.ByContra
import ScalarSql.Value.Order

/-!
# Values as keys

`Value.same` and `Value.hashWords` together say when two values are one key.  Both see a
decimal as a number, equality by its units and hashing by its parts without trailing zeros,
and the two agree because a number has only one such writing, `Decimal.normalized_eq_iff`.

**Canonical values.**  `Value.canonical` writes every decimal of a value without trailing
zeros.  Apart from doubles, values are the same if they have one canonical form,
`Value.same_iff_canonical`, and the hash of a value is that of its canonical form,
`Value.hashWords_canonical`.  So on values without doubles sameness is an equivalence, and
the same values hash alike: being one key is being the same, `Value.sameKey_eq_same`.
-/

set_option autoImplicit false

namespace ScalarSql

/-! ## Decimals -/

namespace Decimal

/-- Stripping zeros keeps the number, and stops at a fraction that does not end in zero. -/
theorem stripZeros_spec (coefficient scale : Nat) :
    coefficient = (stripZeros coefficient scale).1
        * tenPow (scale - (stripZeros coefficient scale).2) ∧
      ((stripZeros coefficient scale).2 = 0 ∨ (stripZeros coefficient scale).1 % 10 ≠ 0) := by
  induction scale generalizing coefficient with
  | zero => exact ⟨(Nat.mul_one _).symm, .inl rfl⟩
  | succ scale ih =>
      rw [stripZeros]
      split
      · next endsInZero =>
          obtain ⟨kept, stops⟩ := ih (coefficient / 10)
          have atMost := (stripZeros_le (coefficient / 10) scale).2
          refine ⟨?_, stops⟩
          rw [Nat.sub_add_comm atMost, tenPow_add, ← Nat.mul_assoc, ← kept]
          exact (Nat.div_mul_cancel (Nat.dvd_of_mod_eq_zero endsInZero)).symm
      · next endsOtherwise =>
          refine ⟨?_, .inr endsOtherwise⟩
          rw [Nat.sub_self]
          exact (Nat.mul_one _).symm

/-- The number of a stripped coefficient, counted in steps of `10 ^ -28`. -/
theorem stripZeros_units {coefficient scale : Nat} (bound : scale ≤ 28) :
    (stripZeros coefficient scale).1 * tenPow (28 - (stripZeros coefficient scale).2)
      = coefficient * tenPow (28 - scale) := by
  have atMost := (stripZeros_le coefficient scale).2
  have digits : 28 - (stripZeros coefficient scale).2
      = (scale - (stripZeros coefficient scale).2) + (28 - scale) := by omega
  rw [digits, tenPow_add, ← Nat.mul_assoc, ← (stripZeros_spec coefficient scale).1]

/-- Two writings of one number without trailing zeros have one scale. -/
theorem scale_le_of_units {first second firstScale secondScale : Nat}
    (sameUnits : first * tenPow (28 - firstScale) = second * tenPow (28 - secondScale))
    (bound : firstScale ≤ 28) (stops : firstScale = 0 ∨ first % 10 ≠ 0) :
    firstScale ≤ secondScale := by
  by_contra larger
  have digits : 28 - secondScale = (firstScale - secondScale - 1) + 1 + (28 - firstScale) := by
    omega
  rw [digits, tenPow_add, ← Nat.mul_assoc] at sameUnits
  have coefficient : first = second * tenPow (firstScale - secondScale - 1 + 1) :=
    Nat.eq_of_mul_eq_mul_right (tenPow_pos _) sameUnits
  have divisible : first % 10 = 0 := by
    rw [coefficient, tenPow_add, ← Nat.mul_assoc]
    exact Nat.mul_mod_left _ 10
  rcases stops with zero | endsOtherwise
  · omega
  · exact endsOtherwise divisible

/-- **A number is written in one way without trailing zeros.** -/
theorem stripZeros_eq {first second firstScale secondScale : Nat} (firstBound : firstScale ≤ 28)
    (secondBound : secondScale ≤ 28)
    (sameUnits : first * tenPow (28 - firstScale) = second * tenPow (28 - secondScale)) :
    stripZeros first firstScale = stripZeros second secondScale := by
  have stripped : (stripZeros first firstScale).1 * tenPow (28 - (stripZeros first firstScale).2)
      = (stripZeros second secondScale).1
        * tenPow (28 - (stripZeros second secondScale).2) := by
    rw [stripZeros_units firstBound, stripZeros_units secondBound, sameUnits]
  have sameScale : (stripZeros first firstScale).2 = (stripZeros second secondScale).2 :=
    Nat.le_antisymm
      (scale_le_of_units stripped (Nat.le_trans (stripZeros_le _ _).2 firstBound)
        (stripZeros_spec first firstScale).2)
      (scale_le_of_units stripped.symm (Nat.le_trans (stripZeros_le _ _).2 secondBound)
        (stripZeros_spec second secondScale).2)
  rw [sameScale] at stripped
  exact Prod.ext (Nat.eq_of_mul_eq_mul_right (tenPow_pos _) stripped) sameScale

theorem units_eq (d : Decimal) :
    d.units = if d.negative then -((d.coefficient * tenPow (28 - d.scale) : Nat) : Int)
      else ((d.coefficient * tenPow (28 - d.scale) : Nat) : Int) := by
  rw [units, signedCoefficient, Int.natCast_mul]
  split
  · exact Int.neg_mul _ _
  · rfl

theorem units_eq_zero {d : Decimal} : d.units = 0 ↔ d.isZero = true := by
  have positive := tenPow_pos (28 - d.scale)
  have product : d.coefficient * tenPow (28 - d.scale) = 0 ↔ d.coefficient = 0 := by
    rw [Nat.mul_eq_zero]
    omega
  rw [units_eq, isZero, beq_iff_eq, ← product]
  split <;> omega

/-- Without trailing zeros the number is the same. -/
theorem units_normalized (d : Decimal) : d.normalized.units = d.units := by
  unfold normalized
  split
  · next zero => rw [units_eq_zero.mpr zero]; rfl
  · rw [units_eq, units_eq]
    dsimp only
    rw [stripZeros_units d.scale_le]

/-- **Two decimals denote one number if they are the same without trailing zeros.** -/
theorem normalized_eq_iff {left right : Decimal} :
    left.normalized = right.normalized ↔ left.units = right.units := by
  constructor
  · intro normal
    rw [← units_normalized left, ← units_normalized right, normal]
  · intro sameUnits
    have zeros : left.isZero = right.isZero := by
      rw [Bool.eq_iff_iff, ← units_eq_zero, ← units_eq_zero, sameUnits]
    cases isZero : right.isZero with
    | true => simp only [normalized, zeros, isZero, ↓reduceIte]
    | false =>
        rw [isZero] at zeros
        have leftNonzero := mt units_eq_zero.mp (Bool.eq_false_iff.mp zeros)
        rw [units_eq left] at sameUnits leftNonzero
        rw [units_eq right] at sameUnits
        have signs : left.negative = right.negative := by
          revert sameUnits leftNonzero
          cases left.negative <;> cases right.negative <;>
            intro leftNonzero sameUnits <;>
            simp only [Bool.false_eq_true, ↓reduceIte] at leftNonzero sameUnits ⊢ <;> omega
        have magnitudes : left.coefficient * tenPow (28 - left.scale)
            = right.coefficient * tenPow (28 - right.scale) := by
          rw [signs] at sameUnits
          split at sameUnits <;> omega
        have stripped := stripZeros_eq left.scale_le right.scale_le magnitudes
        simp only [normalized, zeros, isZero, Bool.false_eq_true, ↓reduceIte, signs, stripped]

theorem normalized_normalized (d : Decimal) : d.normalized.normalized = d.normalized :=
  normalized_eq_iff.mpr (units_normalized d)

end Decimal

theorem BoundedInt.val_inj {bits : Nat} {left right : BoundedInt bits} :
    left.val = right.val ↔ left = right :=
  ⟨BoundedInt.ext_val, congrArg BoundedInt.val⟩

namespace Value

/-! ## Canonical values -/

mutual

/-- Whether there is a double in a value. -/
def hasDouble : Value → Bool
  | .double _ => true
  | .struct members => membersHaveDouble members
  | .array items => itemsHaveDouble items
  | _ => false

/-- Whether there is a double in members. -/
def membersHaveDouble : List (String × Value) → Bool
  | [] => false
  | (_, value) :: rest => value.hasDouble || membersHaveDouble rest

/-- Whether there is a double in items. -/
def itemsHaveDouble : List Value → Bool
  | [] => false
  | item :: rest => item.hasDouble || itemsHaveDouble rest

end

theorem itemsHaveDouble_eq_false {items : List Value} :
    itemsHaveDouble items = false ↔ ∀ item ∈ items, item.hasDouble = false := by
  induction items with
  | nil => exact ⟨fun _ => nofun, fun _ => rfl⟩
  | cons item rest ih =>
      rw [itemsHaveDouble, Bool.or_eq_false_iff, ih, List.forall_mem_cons]

mutual

/-- The value with every decimal written without trailing zeros. -/
def canonical : Value → Value
  | .decimal value => .decimal value.normalized
  | .struct members => .struct (canonicalMembers members)
  | .array items => .array (canonicalItems items)
  | value => value

/-- Members with every decimal written without trailing zeros. -/
def canonicalMembers : List (String × Value) → List (String × Value)
  | [] => []
  | (name, value) :: rest => (name, value.canonical) :: canonicalMembers rest

/-- Items with every decimal written without trailing zeros. -/
def canonicalItems : List Value → List Value
  | [] => []
  | item :: rest => item.canonical :: canonicalItems rest

end

mutual

/-- **Values are the same if they have one canonical form**, unless there are doubles in
them. -/
theorem same_iff_canonical (left right : Value) (noDouble : left.hasDouble = false) :
    same left right = true ↔ left.canonical = right.canonical := by
  cases left with
  | double _ => cases noDouble
  | null => cases right <;> simp [same, canonical]
  | int left | long left =>
      cases right <;> simp [same, canonical, BoundedInt.val_inj]
  | string left | boolean left => cases right <;> simp [same, canonical]
  | decimal left =>
      cases right with
      | decimal right =>
          simp [same, canonical, Decimal.sameNumber, Decimal.normalized_eq_iff]
      | _ => simp [same, canonical]
  | struct left =>
      cases right with
      | struct right =>
          simp only [same, canonical, struct.injEq]
          exact sameMembers_iff_canonical left right noDouble
      | _ => simp [same, canonical]
  | array left =>
      cases right with
      | array right =>
          simp only [same, canonical, array.injEq]
          exact sameItems_iff_canonical left right noDouble
      | _ => simp [same, canonical]

theorem sameMembers_iff_canonical : ∀ left right : List (String × Value),
    membersHaveDouble left = false →
      (sameMembers left right = true ↔ canonicalMembers left = canonicalMembers right)
  | [], [], _ | [], _ :: _, _ | _ :: _, [], _ => by simp [sameMembers, canonicalMembers]
  | (leftName, left) :: lefts, (rightName, right) :: rights, noDouble => by
      simp only [membersHaveDouble, Bool.or_eq_false_iff] at noDouble
      simp only [sameMembers, canonicalMembers, Bool.and_eq_true, beq_iff_eq,
        same_iff_canonical left right noDouble.1,
        sameMembers_iff_canonical lefts rights noDouble.2, List.cons.injEq, Prod.mk.injEq]

theorem sameItems_iff_canonical : ∀ left right : List Value, itemsHaveDouble left = false →
    (sameItems left right = true ↔ canonicalItems left = canonicalItems right)
  | [], [], _ | [], _ :: _, _ | _ :: _, [], _ => by simp [sameItems, canonicalItems]
  | left :: lefts, right :: rights, noDouble => by
      simp only [itemsHaveDouble, Bool.or_eq_false_iff] at noDouble
      simp only [sameItems, canonicalItems, Bool.and_eq_true,
        same_iff_canonical left right noDouble.1,
        sameItems_iff_canonical lefts rights noDouble.2, List.cons.injEq]

end

theorem length_canonicalMembers (members : List (String × Value)) :
    (canonicalMembers members).length = members.length := by
  induction members with
  | nil => rfl
  | cons member rest ih => exact congrArg (· + 1) ih

theorem length_canonicalItems (items : List Value) :
    (canonicalItems items).length = items.length := by
  induction items with
  | nil => rfl
  | cons item rest ih => exact congrArg (· + 1) ih

mutual

/-- **A value hashes like its canonical form.** -/
theorem hashWords_canonical (value : Value) : value.canonical.hashWords = value.hashWords := by
  cases value with
  | decimal value => simp only [canonical, hashWords, Decimal.normalized_normalized]
  | struct members =>
      simp only [canonical, hashWords, length_canonicalMembers, memberWords_canonical members]
  | array items =>
      simp only [canonical, hashWords, length_canonicalItems, itemWords_canonical items]
  | _ => rfl

theorem memberWords_canonical : ∀ members : List (String × Value),
    memberWords (canonicalMembers members) = memberWords members
  | [] => rfl
  | (name, value) :: rest => by
      simp only [canonicalMembers, memberWords, hashWords_canonical value,
        memberWords_canonical rest]

theorem itemWords_canonical : ∀ items : List Value,
    itemWords (canonicalItems items) = itemWords items
  | [] => rfl
  | item :: rest => by
      simp only [canonicalItems, itemWords, hashWords_canonical item, itemWords_canonical rest]

end

/-! ## Keys -/

/-- **The same values hash alike**, unless there are doubles in them. -/
theorem hashWords_eq_of_same {left right : Value} (noDouble : left.hasDouble = false)
    (areSame : same left right = true) : left.hashWords = right.hashWords := by
  rw [← hashWords_canonical left, ← hashWords_canonical right,
    (same_iff_canonical left right noDouble).mp areSame]

/-- Without doubles, values are one key if they are the same. -/
theorem sameKey_eq_same {left right : Value} (noDouble : left.hasDouble = false) :
    sameKey left right = same left right := by
  rw [sameKey]
  cases areSame : same left right with
  | false => rw [Bool.and_false]
  | true => rw [hashWords_eq_of_same noDouble areSame, beq_self_eq_true, Bool.and_true]

end Value

end ScalarSql
