import Mathlib.Tactic.ByContra
import ScalarSql.Proofs.Value.Keys

/-!
# How equal values hash

Equality of keys sees a double as a number, and hashing sees its bits.  A number other than
zero is one double, because the significand and the exponent of a double are canonical,
`Double.eq_of_sameNumber`.  Zero is two doubles that differ in their sign.

**Exact condition.**  `Value.zeroSigns` lists the signs of the zeros among the doubles of a
value.  Values that are the same have their zeros at the same places, and
`Value.hashWords_eq_iff_of_same` says that they hash alike exactly when these zeros have the
same signs.  Decimals need no condition, although they also have two zeros: they are hashed
without their trailing zeros, and zero without a sign.
-/

set_option autoImplicit false

namespace ScalarSql

/-! ## Doubles -/

namespace Double

variable {first second : Nat} {firstExponent secondExponent : Int}

/-- Of two canonical writings of one number neither has the larger exponent. -/
theorem exponent_le_of_steps (firstCanonical : CanonicalBinary first firstExponent)
    (secondCanonical : CanonicalBinary second secondExponent)
    (sameSteps : steps first firstExponent = steps second secondExponent) :
    firstExponent ≤ secondExponent := by
  obtain ⟨-, -, -, large⟩ := firstCanonical
  obtain ⟨small, least, -, -⟩ := secondCanonical
  by_contra larger
  have bits : (firstExponent + 1074).toNat
      = ((firstExponent - secondExponent).toNat - 1 + 1) + (secondExponent + 1074).toNat := by
    omega
  rw [steps, steps, bits, twoPow, Nat.pow_eq, Nat.pow_add, ← Nat.mul_assoc] at sameSteps
  have significand := Nat.eq_of_mul_eq_mul_right (twoPow_pos _) sameSteps
  -- A larger exponent comes with a leading bit, which leaves no room for one more.
  have leading : twoPow 52 ≤ first := by omega
  have doubled : first * 2 ≤ second := by
    rw [← significand, Nat.pow_succ, ← Nat.mul_assoc]
    exact Nat.mul_le_mul_right 2 (Nat.le_mul_of_pos_right first (twoPow_pos _))
  have room : twoPow 53 = twoPow 52 * 2 := rfl
  omega

/-- **A magnitude has one canonical significand and exponent.** -/
theorem eq_of_steps (firstCanonical : CanonicalBinary first firstExponent)
    (secondCanonical : CanonicalBinary second secondExponent)
    (sameSteps : steps first firstExponent = steps second secondExponent) :
    first = second ∧ firstExponent = secondExponent := by
  have exponents : firstExponent = secondExponent :=
    Int.le_antisymm (exponent_le_of_steps firstCanonical secondCanonical sameSteps)
      (exponent_le_of_steps secondCanonical firstCanonical sameSteps.symm)
  rw [exponents] at sameSteps
  exact ⟨Nat.eq_of_mul_eq_mul_right (twoPow_pos _) sameSteps, exponents⟩

theorem steps_eq_zero {significand : Nat} {exponent : Int} :
    steps significand exponent = 0 ↔ significand = 0 := by
  have positive := twoPow_pos (exponent + 1074).toNat
  rw [steps, Nat.mul_eq_zero]
  omega

/-- Equal signed numbers have equal magnitudes, and one sign unless they are zero. -/
theorem signed_eq_iff {left right : Bool} {first second : Nat} :
    signed left first = signed right second ↔ first = second ∧ (left = right ∨ first = 0) := by
  cases left <;> cases right <;> simp [signed] <;> omega

/-- **Equal numbers are one double**, or they are zeros. -/
theorem eq_or_isZero_of_sameNumber {left right : Double} (same : sameNumber left right = true) :
    left = right ∨ left.isZero = true ∧ right.isZero = true := by
  rw [sameNumber, beq_iff_eq] at same
  cases left with
  | nan => simp [compare?] at same
  | infinite leftSign =>
      cases right with
      | nan => cases leftSign <;> simp [compare?] at same
      | infinite rightSign => cases leftSign <;> cases rightSign <;> simp [compare?] at same ⊢
      | finite _ _ _ _ => cases leftSign <;> simp [compare?] at same
  | finite leftSign first firstExponent firstCanonical =>
      cases right with
      | nan => simp [compare?] at same
      | infinite rightSign => cases rightSign <;> simp [compare?] at same
      | finite rightSign second secondExponent secondCanonical =>
          rw [compare?, Option.some.injEq, Int.compare_eq_eq, signed_eq_iff, steps_eq_zero] at same
          obtain ⟨magnitudes, signs⟩ := same
          obtain ⟨rfl, rfl⟩ := eq_of_steps firstCanonical secondCanonical magnitudes
          rcases signs with rfl | rfl
          · exact .inl rfl
          · exact .inr ⟨rfl, rfl⟩

/-- The sign of a zero, and nothing for other numbers. -/
def zeroSigns (number : Double) : List Bool :=
  if number.isZero then [number.isNegative] else []

/-- A zero has the bits of its sign alone. -/
theorem toBits_of_isZero {number : Double} (isZero : number.isZero = true) :
    number.toBits = if number.isNegative then twoPow 63 else 0 := by
  cases number with
  | nan | infinite _ => cases isZero
  | finite negative significand _ _ =>
      obtain rfl : significand = 0 := by simpa [Double.isZero] using isZero
      have small : 0 < twoPow 52 := twoPow_pos 52
      cases negative <;> simp [toBits, isNegative, small]

/-- **Equal numbers have the same bits** unless they are zeros of different signs. -/
theorem toBits_eq_iff_of_sameNumber {left right : Double} (same : sameNumber left right = true) :
    left.toBits = right.toBits ↔ left.zeroSigns = right.zeroSigns := by
  rcases eq_or_isZero_of_sameNumber same with rfl | ⟨leftZero, rightZero⟩
  · exact iff_of_true rfl rfl
  · have nonzero : twoPow 63 ≠ 0 := Nat.ne_of_gt (twoPow_pos 63)
    rw [toBits_of_isZero leftZero, toBits_of_isZero rightZero]
    simp only [zeroSigns, leftZero, rightZero, ↓reduceIte, List.cons.injEq, and_true]
    cases left.isNegative <;> cases right.isNegative <;> simp [nonzero, nonzero.symm]

/-- Equal numbers are zeros together. -/
theorem length_zeroSigns_of_sameNumber {left right : Double} (same : sameNumber left right = true) :
    left.zeroSigns.length = right.zeroSigns.length := by
  rcases eq_or_isZero_of_sameNumber same with rfl | ⟨leftZero, rightZero⟩
  · rfl
  · simp [zeroSigns, leftZero, rightZero]

end Double

namespace Value

/-! ## Zeros in values -/

mutual

/-- The signs of the zeros among the doubles of a value, in order. -/
def zeroSigns : Value → List Bool
  | .double number => number.zeroSigns
  | .struct members => memberZeroSigns members
  | .array items => itemZeroSigns items
  | _ => []

/-- The signs of the zeros among the doubles of members. -/
def memberZeroSigns : List (String × Value) → List Bool
  | [] => []
  | (_, value) :: rest => value.zeroSigns ++ memberZeroSigns rest

/-- The signs of the zeros among the doubles of items. -/
def itemZeroSigns : List Value → List Bool
  | [] => []
  | item :: rest => item.zeroSigns ++ itemZeroSigns rest

end

/-- Two lists of words that are as long as each other, with lists of signs that are as long as
each other, are equal exactly when the signs are. -/
structure EqualUpToSigns (leftWords rightWords : List HashWord) (leftSigns rightSigns : List Bool) :
    Prop where
  words_length : leftWords.length = rightWords.length
  signs_length : leftSigns.length = rightSigns.length
  words_eq_iff : leftWords = rightWords ↔ leftSigns = rightSigns

namespace EqualUpToSigns

theorem of_eq {leftWords rightWords : List HashWord} (words : leftWords = rightWords) :
    EqualUpToSigns leftWords rightWords [] [] :=
  ⟨congrArg List.length words, rfl, iff_of_true words rfl⟩

/-- Because the lengths agree, concatenations are compared part by part. -/
theorem append {leftWords rightWords moreLeft moreRight : List HashWord}
    {leftSigns rightSigns moreLeftSigns moreRightSigns : List Bool}
    (here : EqualUpToSigns leftWords rightWords leftSigns rightSigns)
    (later : EqualUpToSigns moreLeft moreRight moreLeftSigns moreRightSigns) :
    EqualUpToSigns (leftWords ++ moreLeft) (rightWords ++ moreRight)
      (leftSigns ++ moreLeftSigns) (rightSigns ++ moreRightSigns) := by
  constructor
  case words_length =>
    rw [List.length_append, List.length_append, here.words_length, later.words_length]
  case signs_length =>
    rw [List.length_append, List.length_append, here.signs_length, later.signs_length]
  case words_eq_iff =>
    constructor
    · intro words
      obtain ⟨first, rest⟩ := List.append_inj words here.words_length
      rw [here.words_eq_iff.mp first, later.words_eq_iff.mp rest]
    · intro signs
      obtain ⟨first, rest⟩ := List.append_inj signs here.signs_length
      rw [here.words_eq_iff.mpr first, later.words_eq_iff.mpr rest]

end EqualUpToSigns

/-! ## Hashes of equal values -/

theorem length_of_sameMembers : ∀ {left right : List (String × Value)},
    sameMembers left right = true → left.length = right.length
  | [], [], _ => rfl
  | _ :: _, _ :: _, areSame => by
      simp only [sameMembers, Bool.and_eq_true] at areSame
      exact congrArg (· + 1) (length_of_sameMembers areSame.2)

theorem length_of_sameItems : ∀ {left right : List Value},
    sameItems left right = true → left.length = right.length
  | [], [], _ => rfl
  | _ :: _, _ :: _, areSame => by
      simp only [sameItems, Bool.and_eq_true] at areSame
      exact congrArg (· + 1) (length_of_sameItems areSame.2)

mutual

/-- Values that are the same are hashed alike up to the signs of their zeros. -/
theorem equalUpToSigns_of_same (left right : Value) (areSame : same left right = true) :
    EqualUpToSigns left.hashWords right.hashWords left.zeroSigns right.zeroSigns := by
  cases left with
  | null => cases right <;> simp [same] at areSame; exact .of_eq rfl
  | int left | long left | string left | boolean left =>
      cases right <;> simp [same] at areSame
      refine .of_eq ?_
      rw [hashWords, hashWords, areSame]
  | decimal left =>
      cases right <;> simp [same] at areSame
      refine .of_eq ?_
      rw [Decimal.sameNumber, beq_iff_eq, ← Decimal.normalized_eq_iff] at areSame
      rw [hashWords, hashWords, areSame]
  | double left =>
      cases right <;> simp [same] at areSame
      next right =>
        refine ⟨rfl, Double.length_zeroSigns_of_sameNumber areSame, ?_⟩
        have bits := Double.toBits_eq_iff_of_sameNumber areSame
        simpa [hashWords, zeroSigns] using bits
  | struct left =>
      cases right <;> simp [same] at areSame
      next right =>
        have count : [HashWord.variant 7, .count left.length]
            = [.variant 7, .count right.length] := by
          rw [length_of_sameMembers areSame]
        exact (EqualUpToSigns.of_eq count).append (equalUpToSigns_of_sameMembers left right areSame)
  | array left =>
      cases right <;> simp [same] at areSame
      next right =>
        have count : [HashWord.variant 8, .count left.length]
            = [.variant 8, .count right.length] := by
          rw [length_of_sameItems areSame]
        exact (EqualUpToSigns.of_eq count).append (equalUpToSigns_of_sameItems left right areSame)

theorem equalUpToSigns_of_sameMembers : ∀ left right : List (String × Value),
    sameMembers left right = true →
      EqualUpToSigns (memberWords left) (memberWords right) (memberZeroSigns left)
        (memberZeroSigns right)
  | [], [], _ => .of_eq rfl
  | [], _ :: _, areSame | _ :: _, [], areSame => by simp [sameMembers] at areSame
  | (leftName, left) :: lefts, (rightName, right) :: rights, areSame => by
      simp only [sameMembers, Bool.and_eq_true, beq_iff_eq] at areSame
      obtain ⟨⟨rfl, here⟩, later⟩ := areSame
      have name : [HashWord.text leftName] = [.text leftName] := rfl
      exact (EqualUpToSigns.of_eq name).append
        ((equalUpToSigns_of_same left right here).append
          (equalUpToSigns_of_sameMembers lefts rights later))

theorem equalUpToSigns_of_sameItems : ∀ left right : List Value, sameItems left right = true →
    EqualUpToSigns (itemWords left) (itemWords right) (itemZeroSigns left) (itemZeroSigns right)
  | [], [], _ => .of_eq rfl
  | [], _ :: _, areSame | _ :: _, [], areSame => by simp [sameItems] at areSame
  | left :: lefts, right :: rights, areSame => by
      simp only [sameItems, Bool.and_eq_true] at areSame
      exact (equalUpToSigns_of_same left right areSame.1).append
        (equalUpToSigns_of_sameItems lefts rights areSame.2)

end

/-- **Equal values hash alike if and only if their zeros have the same signs.**  This is the
one way in which equality and hashing disagree, at any depth. -/
theorem hashWords_eq_iff_of_same {left right : Value} (areSame : same left right = true) :
    left.hashWords = right.hashWords ↔ left.zeroSigns = right.zeroSigns :=
  (equalUpToSigns_of_same left right areSame).words_eq_iff

/-- Another scale of a decimal leaves the hash of a structure as it is, and another sign of a
zero in an array does not. -/
theorem hashWords_eq_iff_of_same_of_zeros :
    let record := fun (price : Decimal) (zero : Double) =>
      Value.struct [("price", .decimal price), ("offsets", .array [.null, .double zero])]
    let short : Decimal := ⟨false, 15, 1, by decide, by decide⟩
    let long : Decimal := ⟨false, 150, 2, by decide, by decide⟩
    (same (record short (.zero true)) (record long (.zero true)) = true ∧
      (record short (.zero true)).hashWords = (record long (.zero true)).hashWords) ∧
    (same (record short (.zero true)) (record long (.zero false)) = true ∧
      (record short (.zero true)).hashWords ≠ (record long (.zero false)).hashWords) := by
  intro record short long
  have alike : same (record short (.zero true)) (record long (.zero true)) = true := by decide
  have apart : same (record short (.zero true)) (record long (.zero false)) = true := by decide
  refine ⟨⟨alike, (hashWords_eq_iff_of_same alike).mpr rfl⟩, apart, ?_⟩
  rw [Ne, hashWords_eq_iff_of_same apart]
  decide

end Value

end ScalarSql
