import Mathlib.Data.Rat.Floor
import Mathlib.Tactic.Positivity
import ScalarSql.Expr.Coercion
import ScalarSql.Expr.Evaluation

/-!
# Decimals that become integers

A decimal becomes an integer in two places: analysis narrows a decimal that is written in a
query, and any other decimal is cast when a row is read.  Here the number of a decimal is the
rational `Decimal.value`, and `Decimal.narrow?_exact` and `Decimal.narrow?_truncate` say in its
terms when there is an integer and which one it is: the number itself, and the number without
its fraction.

`Decimal.narrowing_agrees` puts the two places side by side: what analysis finds out about a literal
is what the cast that it inserts elsewhere finds out about a value.
-/

set_option autoImplicit false

namespace ScalarSql

namespace Decimal

/-! ## The number of a decimal -/

/-- The number that a decimal denotes. -/
def value (d : Decimal) : ℚ := d.signedCoefficient / (tenPow d.scale : ℕ)

/-- A number without its fraction. -/
def withoutFraction (number : ℚ) : ℤ := if 0 ≤ number then ⌊number⌋ else ⌈number⌉

theorem value_eq (d : Decimal) :
    d.value = if d.negative then -((d.coefficient : ℤ) / (tenPow d.scale : ℕ) : ℚ)
      else ((d.coefficient : ℤ) / (tenPow d.scale : ℕ) : ℚ) := by
  unfold value signedCoefficient
  split
  · rw [Int.cast_neg, neg_div]
  · rfl

/-- **The integer part of a decimal** is its number without the fraction. -/
theorem truncated_eq (d : Decimal) : d.truncated = withoutFraction d.value := by
  have magnitude : (0 : ℚ) ≤ (d.coefficient : ℤ) / (tenPow d.scale : ℕ) := by positivity
  have whole : ⌊((d.coefficient : ℤ) / (tenPow d.scale : ℕ) : ℚ)⌋
      = ((d.coefficient / tenPow d.scale : ℕ) : ℤ) := by
    rw [Rat.floor_intCast_div_natCast, Int.natCast_div]
  rw [truncated, withoutFraction, value_eq]
  cases d.negative with
  | false => simp only [Bool.false_eq_true, if_false, magnitude, if_true, whole]
  | true =>
      simp only [if_true, Left.nonneg_neg_iff, Int.ceil_neg, whole]
      split
      · next zero =>
          -- A negative zero is not below zero.
          rw [le_antisymm zero magnitude] at whole ⊢
          rw [Int.floor_zero] at whole
          rw [← whole, neg_zero, neg_zero, Int.floor_zero]
      · rfl

/-- **A decimal without a fraction denotes its integer part.** -/
theorem isIntegral_iff (d : Decimal) : d.isIntegral = true ↔ (d.truncated : ℚ) = d.value := by
  have positive : ((tenPow d.scale : ℕ) : ℚ) ≠ 0 := by
    exact_mod_cast (tenPow_pos d.scale).ne'
  have magnitude : (((d.coefficient / tenPow d.scale : ℕ) : ℤ) : ℚ)
      = (d.coefficient : ℤ) / (tenPow d.scale : ℕ) ↔ d.coefficient % tenPow d.scale = 0 := by
    rw [eq_div_iff positive]
    norm_cast
    rw [← Nat.dvd_iff_mod_eq_zero]
    exact ⟨fun product => ⟨_, (Nat.mul_comm _ _).trans product |>.symm⟩, Nat.div_mul_cancel⟩
  rw [isIntegral, beq_iff_eq, ← magnitude, truncated, value_eq]
  cases d.negative with
  | false => simp
  | true => simp [neg_inj]

/-- An integer that is the number of a decimal is its integer part. -/
theorem eq_truncated {d : Decimal} {whole : ℤ} (same : (whole : ℚ) = d.value) :
    whole = d.truncated := by
  rw [truncated_eq, ← same, withoutFraction]
  split
  · exact (Int.floor_intCast whole).symm
  · exact (Int.ceil_intCast whole).symm

end Decimal

/-! ## Integers as values -/

theorem BoundedInt.ofInt?_eq_some {bits : ℕ} {whole : ℤ} {number : BoundedInt bits} :
    ofInt? whole = some number ↔ number.val = whole := by
  constructor
  · exact val_of_ofInt?
  · rintro rfl
    exact ofInt?_val number

/-- The values of an integer type, with the integers that they hold. -/
inductive Value.IsInteger : DataType → Value → ℤ → Prop
  | int (number : BoundedInt 32) : IsInteger .int (.int number) number.val
  | long (number : BoundedInt 64) : IsInteger .long (.long number) number.val

theorem Value.isInteger_int {value : Value} {whole : ℤ} :
    IsInteger .int value whole ↔ (BoundedInt.ofInt? whole).map .int = some value := by
  simp only [Option.map_eq_some_iff, BoundedInt.ofInt?_eq_some]
  constructor
  · intro held
    cases held with
    | int number => exact ⟨number, rfl, rfl⟩
  · rintro ⟨number, rfl, rfl⟩
    exact .int number

theorem Value.isInteger_long {value : Value} {whole : ℤ} :
    IsInteger .long value whole ↔ (BoundedInt.ofInt? whole).map .long = some value := by
  simp only [Option.map_eq_some_iff, BoundedInt.ofInt?_eq_some]
  constructor
  · intro held
    cases held with
    | long number => exact ⟨number, rfl, rfl⟩
  · rintro ⟨number, rfl, rfl⟩
    exact .long number

namespace Decimal

/-! ## Narrowing -/

variable {target : DataType} (integral : target = .int ∨ target = .long)

include integral

/-- **Narrowing gives the integer part**, if the policy allows it and it is in range. -/
theorem narrow?_eq_some {d : Decimal} {policy : Narrowing} {result : Value} :
    d.narrow? target policy = some result ↔
      (policy = .exact → d.isIntegral = true) ∧ Value.IsInteger target result d.truncated := by
  have allowed : (policy == .exact && !d.isIntegral) = true ↔
      ¬ (policy = .exact → d.isIntegral = true) := by
    cases policy <;> cases d.isIntegral <;> simp
  by_cases permitted : policy = .exact → d.isIntegral = true
  · have passes := Bool.eq_false_iff.mpr (mt allowed.mp (not_not.mpr permitted))
    rw [and_iff_right permitted]
    rcases integral with rfl | rfl
    · simp only [narrow?, passes, Bool.false_eq_true, if_false, Value.isInteger_int]
    · simp only [narrow?, passes, Bool.false_eq_true, if_false, Value.isInteger_long]
  · simp only [narrow?, allowed.mpr permitted, if_true, permitted, false_and, reduceCtorEq]

/-- The exact policy gives the integer that is the number of the decimal. -/
theorem narrow?_exact {d : Decimal} {result : Value} :
    d.narrow? target .exact = some result ↔
      ∃ whole : ℤ, Value.IsInteger target result whole ∧ (whole : ℚ) = d.value := by
  rw [narrow?_eq_some integral, isIntegral_iff]
  constructor
  · rintro ⟨noFraction, inRange⟩
    exact ⟨d.truncated, inRange, noFraction rfl⟩
  · rintro ⟨whole, inRange, same⟩
    obtain rfl := eq_truncated same
    exact ⟨fun _ => same, inRange⟩

/-- The other policy gives the number of the decimal without its fraction. -/
theorem narrow?_truncate {d : Decimal} {result : Value} :
    d.narrow? target .truncate = some result ↔
      Value.IsInteger target result (withoutFraction d.value) := by
  rw [narrow?_eq_some integral, truncated_eq]
  simp

end Decimal

namespace Expr

/-! ## Literals and other expressions -/

variable {target : DataType} (integral : target = .int ∨ target = .long)

include integral

theorem coercion?_decimal : DataType.decimal.coercion? target = some .narrowing := by
  rcases integral with rfl | rfl <;> rfl

/-- A literal is narrowed by analysis. -/
theorem coerce_literal (d : Decimal) (policy : Narrowing) :
    (literal (.decimal d)).coerce .decimal target policy
      = match d.narrow? target policy with
        | some value => .expr (.literal value)
        | none => .inexact := by
  rw [coerce, coercion?_decimal integral]
  rfl

/-- Any other expression is cast, and the policy decides whether the cast is checked. -/
theorem coerce_of_no_literal {argument : Expr} (other : argument.decimalLiteral? = none)
    (policy : Narrowing) :
    argument.coerce .decimal target policy
      = .expr (.cast argument target (policy == .exact)) := by
  simp only [coerce, coercion?_decimal integral, other]

/-- The cast of a decimal narrows it under the policy. -/
theorem castTo_decimal (d : Decimal) (policy : Narrowing) :
    (Value.decimal d).castTo target (policy == .exact)
      = match d.narrow? target policy with
        | some result => .ok result
        | none => .error (.evaluation (.inexactNarrowing d.text target)) := by
  rcases integral with rfl | rfl <;> cases policy <;> rfl

end Expr

/-! ## Analysis and execution -/

namespace Decimal

/-- **Narrowing is exact, and analysis agrees with execution.**  A decimal becomes the integer
that it denotes under the exact policy, and the integer that is left of it without its fraction
under the other one, if there is one of the target type.  A literal becomes that integer, or is
found to be inexact, exactly when the cast for any other expression gives that integer, or
fails, on a row on which the expression has the decimal as its value. -/
theorem narrowing_agrees (d : Decimal) {target : DataType}
    (integral : target = .int ∨ target = .long) :
    (∀ result, d.narrow? target .exact = some result ↔
      ∃ whole : ℤ, Value.IsInteger target result whole ∧ (whole : ℚ) = d.value) ∧
    (∀ result, d.narrow? target .truncate = some result ↔
      Value.IsInteger target result (withoutFraction d.value)) ∧
    ∀ (policy : Narrowing) (argument : Expr), argument.decimalLiteral? = none →
      ∃ converted, argument.coerce .decimal target policy = .expr converted ∧
        ∀ context : RowContext, argument.evaluate context = .ok (.decimal d) →
          (∀ result, (Expr.literal (.decimal d)).coerce .decimal target policy
              = .expr (.literal result) ↔ converted.evaluate context = .ok result) ∧
          ((Expr.literal (.decimal d)).coerce .decimal target policy = .inexact ↔
            ∃ error, converted.evaluate context = .error error) := by
  refine ⟨fun _ => narrow?_exact integral, fun _ => narrow?_truncate integral, ?_⟩
  intro policy argument other
  refine ⟨_, Expr.coerce_of_no_literal integral other policy, ?_⟩
  intro context evaluated
  have cast : (Expr.cast argument target (policy == .exact)).evaluate context
      = (Value.decimal d).castTo target (policy == .exact) := by
    simp only [Expr.evaluate, evaluated]
  rw [cast, Expr.castTo_decimal integral, Expr.coerce_literal integral]
  cases d.narrow? target policy with
  | none => simp
  | some narrowed => simp

/-- The least integer is narrowed, with a fraction of zeros, and so is half less than it, but
only by the policy that drops the half. -/
theorem narrowing_agrees_of_least :
    let least : Decimal := ⟨true, 21474836480, 1, by decide, by decide⟩
    let below : Decimal := ⟨true, 21474836485, 1, by decide, by decide⟩
    let integer : Value := .int ⟨-2147483648, by decide, by decide⟩
    let context : RowContext :=
      { schema := { columns := [{ name := "d", type := .decimal }] }, policy := .abort
        row := [.decimal below], index := 0 }
    least.narrow? .int .exact = some integer ∧ below.narrow? .int .truncate = some integer ∧
      ∃ converted error, (Expr.column "d").coerce .decimal .int .exact = .expr converted ∧
        converted.evaluate context = .error error := by
  intro least below integer context
  obtain ⟨exact, -, -⟩ :=
    narrowing_agrees least (.inl rfl : DataType.int = .int ∨ DataType.int = .long)
  obtain ⟨-, truncate, runs⟩ :=
    narrowing_agrees below (.inl rfl : DataType.int = .int ∨ DataType.int = .long)
  refine ⟨(exact integer).mpr ⟨-2147483648, .int _, ?_⟩, (truncate integer).mpr ?_, ?_⟩
  · have whole : least.truncated = -2147483648 := by decide
    rw [← whole]
    exact (isIntegral_iff least).mp (by decide)
  · have whole : below.truncated = -2147483648 := by decide
    rw [← truncated_eq, whole]
    exact .int _
  · obtain ⟨converted, coerced, agrees⟩ := runs .exact (.column "d") rfl
    have fraction : below.isIntegral = false := by decide
    have refused : below.narrow? .int .exact = none := by
      simp only [narrow?, fraction, beq_self_eq_true, Bool.not_false, Bool.and_true, if_true]
    obtain ⟨error, fails⟩ := (agrees context (by rfl)).2.mp (by
      rw [Expr.coerce_literal (.inl rfl), refused])
    exact ⟨converted, error, coerced, fails⟩

end Decimal

end ScalarSql
