import ScalarSql.Proofs.Value.Typing

/-!
# Operands that change places

`Operator.flip?` names the operator to use when the operands of an operator change places.
Comparisons turn around exactly, whatever the values: `Value.compare?_swap` reaches through
the numeric types and the members of structures.  Products and sums do not depend on the
order of their operands either, with one exception.

**Two zeros.**  A decimal sum with a zero is the other operand as it is, so that the sum of
two zeros is the right one, with its scale and its sign.  `Value.ZerosApart` says that two
values are added as decimals and are different zeros, and `Operator.apply_flip?_iff` that
exactly then a sum shows the order of its operands.
-/

set_option autoImplicit false

namespace ScalarSql

/-! ## Comparisons -/

theorem Double.compare?_swap (left right : Double) :
    compare? right left = (compare? left right).map Ordering.swap := by
  rcases left with _ | (_ | _) | _ <;> rcases right with _ | (_ | _) | _ <;>
    first | rfl | exact congrArg some Std.OrientedCmp.eq_swap

theorem Decimal.compareNumber_swap (left right : Decimal) :
    compareNumber right left = (compareNumber left right).swap := by
  rw [compareNumber, compareNumber]
  exact Std.OrientedCmp.eq_swap

theorem Number.compare?_swap (left right : Number) :
    compare? right left = (compare? left right).map Ordering.swap := by
  cases left with
  | float left => cases right <;> exact Double.compare?_swap _ _
  | whole left =>
      cases right with
      | whole right => exact congrArg some Std.OrientedCmp.eq_swap
      | decimal right => exact congrArg some (Decimal.compareNumber_swap _ _)
      | float right => exact Double.compare?_swap _ _
  | decimal left =>
      cases right with
      | float right => exact Double.compare?_swap _ _
      | _ => exact congrArg some (Decimal.compareNumber_swap _ _)

namespace Value

theorem compare?_of_numbers {left right : Value} {leftNumber rightNumber : Number}
    (isLeft : left.number? = some leftNumber) (isRight : right.number? = some rightNumber) :
    compare? left right = leftNumber.compare? rightNumber := by
  cases left <;> cases isLeft <;> cases right <;> cases isRight <;> rfl

mutual

/-- **Comparing values the other way around** turns the order around. -/
theorem compare?_swap (left right : Value) :
    compare? right left = (compare? left right).map Ordering.swap := by
  cases isLeft : left.number? with
  | some leftNumber =>
      cases isRight : right.number? with
      | some rightNumber =>
          rw [compare?_of_numbers isRight isLeft, compare?_of_numbers isLeft isRight,
            Number.compare?_swap]
      | none => cases left <;> cases isLeft <;> cases right <;> first | rfl | cases isRight
  | none =>
      cases left with
      | string left | boolean left =>
          cases right <;> first | rfl | exact congrArg some Std.OrientedCmp.eq_swap
      | struct left =>
          cases right with
          | struct right => exact compareMembers?_swap left right
          | _ => rfl
      | null | array _ => cases right <;> rfl
      | _ => cases isLeft

theorem compareMembers?_swap : ∀ left right : List (String × Value),
    compareMembers? right left = (compareMembers? left right).map Ordering.swap
  | [], [] => rfl
  | [], _ :: _ => rfl
  | _ :: _, [] => rfl
  | (_, left) :: lefts, (_, right) :: rights => by
      rw [compareMembers?, compareMembers?, compare?_swap left right,
        compareMembers?_swap lefts rights]
      rcases compare? left right with _ | _ | _ | _ <;> rfl

end

/-- **Comparison is antisymmetric.**  Two values compare in both directions or in none, and what
is below from one side is above from the other. -/
theorem compare?_antisymmetric (left right : Value) :
    (compare? right left = none ↔ compare? left right = none) ∧
      ∀ order, compare? right left = some order ↔ compare? left right = some order.swap := by
  rw [compare?_swap left right]
  refine ⟨Option.map_eq_none_iff, fun order => ?_⟩
  rw [Option.map_eq_some_iff]
  constructor
  · rintro ⟨found, compared, rfl⟩
    rw [compared, Ordering.swap_swap]
  · intro compared
    exact ⟨order.swap, compared, Ordering.swap_swap⟩

end Value

theorem Comparison.holds_flip (op : Comparison) (order : Ordering) :
    op.flip.holds order.swap = op.holds order := by
  cases op <;> cases order <;> rfl

/-! ## Sums and products -/

theorem Double.add_comm (left right : Double) : left.add right = right.add left := by
  rcases left with _ | (_ | _) | _ <;> rcases right with _ | (_ | _) | _ <;>
    first | rfl | simp only [add, Int.add_comm, Bool.and_comm]

theorem Double.mul_comm (left right : Double) : left.mul right = right.mul left := by
  rcases left with _ | (_ | _) | _ <;> rcases right with _ | (_ | _) | _ <;>
    first | rfl | simp only [mul, Nat.mul_comm, bne_comm]

namespace Decimal

/-- A sum with a zero on the left is the right operand as it is. -/
theorem add?_of_isZero {left right : Decimal} (zero : left.isZero = true) :
    left.add? right = some right := by
  rw [add?, if_pos zero]

/-- A sum depends on the order of its operands exactly if they are different zeros. -/
theorem add?_comm_iff {left right : Decimal} :
    right.add? left = left.add? right ↔
      (left.isZero = true → right.isZero = true → right = left) := by
  cases leftZero : left.isZero with
  | true =>
      cases rightZero : right.isZero with
      | true =>
          rw [add?_of_isZero leftZero, add?_of_isZero rightZero]
          simp [eq_comm]
      | false => simp [add?, leftZero, rightZero]
  | false =>
      cases rightZero : right.isZero with
      | true => simp [add?, leftZero, rightZero]
      | false =>
          simp [add?, leftZero, rightZero, Int.add_comm, Nat.max_comm]

theorem mul?_comm (left right : Decimal) : right.mul? left = left.mul? right := by
  simp only [mul?, Bool.or_comm, Bool.and_comm, bne_comm, Nat.mul_comm, Nat.add_comm]

end Decimal

/-- An integer that is zero is the decimal zero without fraction digits. -/
theorem Decimal.ofLong_eq_zero {value : BoundedInt 64} (isZero : (ofLong value).isZero = true) :
    ofLong value = zero := by
  have magnitude : value.val.natAbs = 0 := by simpa [ofLong, Decimal.isZero] using isZero
  have number : value.val = 0 := Int.natAbs_eq_zero.mp magnitude
  simp [ofLong, zero, number]

namespace Value

/-- Whether the value is a double, which makes arithmetic one on doubles. -/
def isDouble : Value → Bool
  | .double _ => true
  | _ => false

/-- The integer in a value, in the wider of the two ranges. -/
def integer? : Value → Option (BoundedInt 64)
  | .int value => some value.widen
  | .long value => some value
  | _ => none

/-- The decimal that a value counts as in a decimal sum, if it is a zero. -/
def zero? (value : Value) : Option Decimal :=
  match value.toDecimal with
  | .ok number => if number.isZero && !value.isDouble then some number else none
  | .error _ => none

/-- Whether two values are zeros that are added as decimals and differ in scale or sign. -/
def zerosApart (left right : Value) : Bool :=
  match left.zero?, right.zero? with
  | some leftZero, some rightZero => leftZero != rightZero
  | _, _ => false

theorem zero?_eq_some {value : Value} {number : Decimal} :
    value.zero? = some number ↔
      value.toDecimal = .ok number ∧ number.isZero = true ∧ value.isDouble = false := by
  unfold zero?
  cases value.toDecimal with
  | error error => simp
  | ok other =>
      cases isZero : other.isZero <;> cases value.isDouble <;> simp <;> grind

theorem zerosApart_iff {left right : Value} :
    left.zerosApart right = true ↔ ∃ leftZero rightZero,
      left.zero? = some leftZero ∧ right.zero? = some rightZero ∧ leftZero ≠ rightZero := by
  unfold zerosApart
  cases left.zero? <;> cases right.zero? <;> simp

/-- A double takes part in no decimal sum. -/
theorem zerosApart_of_isDouble {left right : Value}
    (double : left.isDouble = true ∨ right.isDouble = true) : left.zerosApart right = false := by
  rw [← Bool.not_eq_true, zerosApart_iff]
  rintro ⟨leftZero, rightZero, leftIsZero, rightIsZero, -⟩
  obtain ⟨-, -, leftExact⟩ := zero?_eq_some.mp leftIsZero
  obtain ⟨-, -, rightExact⟩ := zero?_eq_some.mp rightIsZero
  rw [leftExact, rightExact] at double
  simp at double

/-- `NULL` is no zero. -/
theorem zerosApart_of_isNull {left right : Value}
    (missing : left.isNull = true ∨ right.isNull = true) : left.zerosApart right = false := by
  unfold zerosApart
  rcases missing with missing | missing
  · rw [isNull_iff.mp missing]
    rfl
  · rw [isNull_iff.mp missing]
    cases left.zero? <;> rfl

theorem toDecimal_of_integer? {value : Value} {number : BoundedInt 64}
    (isInteger : value.integer? = some number) : value.toDecimal = .ok (.ofLong number) := by
  cases value <;> cases isInteger <;> rfl

/-- Integers have only one zero. -/
theorem zerosApart_integers {left right : Value} {leftNumber rightNumber : BoundedInt 64}
    (isLeft : left.integer? = some leftNumber) (isRight : right.integer? = some rightNumber) :
    left.zerosApart right = false := by
  rw [← Bool.not_eq_true, zerosApart_iff]
  rintro ⟨leftZero, rightZero, leftIsZero, rightIsZero, apart⟩
  obtain ⟨leftDecimal, zeroOnLeft, -⟩ := zero?_eq_some.mp leftIsZero
  obtain ⟨rightDecimal, zeroOnRight, -⟩ := zero?_eq_some.mp rightIsZero
  rw [toDecimal_of_integer? isLeft, Except.ok.injEq] at leftDecimal
  rw [toDecimal_of_integer? isRight, Except.ok.injEq] at rightDecimal
  subst leftDecimal rightDecimal
  exact apart ((Decimal.ofLong_eq_zero zeroOnLeft).trans
    (Decimal.ofLong_eq_zero zeroOnRight).symm)

end Value

namespace Arithmetic

theorem integral_comm {op : Arithmetic} (commutes : op = .add ∨ op = .mul) {bits : Nat}
    (wrap : BoundedInt bits → Value) (left right : BoundedInt bits) :
    op.integral wrap right left = op.integral wrap left right := by
  rcases commutes with rfl | rfl
  · simp only [integral, divides, onIntegers?, Int.add_comm, Bool.false_and]
  · simp only [integral, divides, onIntegers?, Int.mul_comm, Bool.false_and]

theorem floating_comm {op : Arithmetic} (commutes : op = .add ∨ op = .mul) {left right : Value}
    {number : Double} (isNumber : left.toDouble = .ok number) :
    op.floating right left = op.floating left right := by
  have onDoubles : ∀ other, op.onDoubles other number = op.onDoubles number other := by
    rcases commutes with rfl | rfl
    · exact fun other => Double.add_comm other number
    · exact fun other => Double.mul_comm other number
  have divides : op.divides = false := by
    rcases commutes with rfl | rfl <;> rfl
  simp only [floating, isNumber, divides, onDoubles]
  cases right.toDouble <;> rfl

theorem exact_comm_iff {op : Arithmetic} (commutes : op = .add ∨ op = .mul)
    {left right : Value} {number : Decimal} (isNumber : left.toDecimal = .ok number) :
    op.exact right left = op.exact left right ↔
      (op = .add → number.isZero = true → ∀ other, right.toDecimal = .ok other →
        other.isZero = true → other = number) := by
  have divides : op.divides = false := by
    rcases commutes with rfl | rfl <;> rfl
  simp only [exact, isNumber, divides]
  cases right.toDecimal with
  | error error => simp
  | ok other =>
      rcases commutes with rfl | rfl
      · simp only [onDecimals?, Except.ok.injEq, forall_eq', forall_const,
          ← Decimal.add?_comm_iff]
        cases other.add? number <;> cases number.add? other <;> simp
      · simp [onDecimals?, Decimal.mul?_comm number other]

/-- Integers are not taken for decimals and only need the wider range of the two. -/
theorem apply_comm_of_integers {op : Arithmetic} (commutes : op = .add ∨ op = .mul)
    {left right : Value} {leftNumber rightNumber : BoundedInt 64}
    (isLeft : left.integer? = some leftNumber) (isRight : right.integer? = some rightNumber) :
    op.apply right left = op.apply left right := by
  cases left <;> cases isLeft <;> cases right <;> cases isRight <;>
    exact integral_comm commutes _ _ _

theorem apply_eq_floating {op : Arithmetic} {left right : Value}
    (double : left.isDouble = true ∨ right.isDouble = true) :
    op.apply left right = op.floating left right := by
  cases left <;> cases right <;> first | rfl | (rcases double with double | double <;> cases double)

theorem apply_eq_exact {op : Arithmetic} {left right : Value}
    (noDouble : left.isDouble = false ∧ right.isDouble = false)
    (mixed : left.integer? = none ∨ right.integer? = none) :
    op.apply left right = op.exact left right := by
  obtain ⟨leftExact, rightExact⟩ := noDouble
  cases left <;> cases leftExact <;> cases right <;> cases rightExact <;>
    first | rfl | (rcases mixed with mixed | mixed <;> cases mixed)

/-- **Operands of sums and products** may change places unless they are zeros apart in a
sum. -/
theorem apply_comm_iff {op : Arithmetic} (commutes : op = .add ∨ op = .mul)
    {left right : Value} (isNumber : left.number?.isSome = true) :
    op.apply right left = op.apply left right ↔
      (op = .add → left.zerosApart right = false) := by
  by_cases double : left.isDouble = true ∨ right.isDouble = true
  · obtain ⟨number, toDouble⟩ : ∃ number, left.toDouble = .ok number := by
      cases left <;> cases isNumber <;> exact ⟨_, rfl⟩
    rw [apply_eq_floating double, apply_eq_floating double.symm, floating_comm commutes toDouble]
    simp [Value.zerosApart_of_isDouble double]
  · obtain ⟨leftExact, rightExact⟩ : left.isDouble = false ∧ right.isDouble = false := by
      simpa using double
    by_cases mixed : left.integer? = none ∨ right.integer? = none
    · obtain ⟨number, toDecimal⟩ : ∃ number, left.toDecimal = .ok number := by
        cases left <;> cases isNumber <;> first | exact ⟨_, rfl⟩ | cases leftExact
      rw [apply_eq_exact ⟨leftExact, rightExact⟩ mixed,
        apply_eq_exact ⟨rightExact, leftExact⟩ mixed.symm, exact_comm_iff commutes toDecimal,
        ← Bool.not_eq_true, Value.zerosApart_iff]
      simp only [Value.zero?_eq_some, toDecimal, leftExact, rightExact, Except.ok.injEq]
      grind
    · obtain ⟨leftInteger, rightInteger⟩ := not_or.mp mixed
      obtain ⟨_, isLeft⟩ := Option.ne_none_iff_exists'.mp leftInteger
      obtain ⟨_, isRight⟩ := Option.ne_none_iff_exists'.mp rightInteger
      rw [apply_comm_of_integers commutes isLeft isRight]
      simp [Value.zerosApart_integers isLeft isRight]

end Arithmetic

namespace Operator

/-- **An operator whose operands change places** gives the same value or error under the
flipped operator, exactly unless it adds two zeros that are apart.  The left operand of a
sum or a product must be a number or `NULL`. -/
theorem apply_flip?_iff {op flipped : Operator} (found : op.flip? = some flipped)
    (binds : op.isLogical = false) {left right : Value}
    (numeric : op.isArithmetic = true → left.number?.isSome = true ∨ left.isNull = true) :
    flipped.apply right left = op.apply left right ↔
      (op = .arithmetic .add → left.zerosApart right = false) := by
  cases op with
  | comparison op =>
      cases found
      have turned : op.flip.holds ∘ Ordering.swap = op.holds :=
        funext fun order => op.holds_flip order
      simp [apply, Value.compare?_swap left right, Option.map_map, turned]
  | arithmetic op =>
      have same : flipped = .arithmetic op := by
        cases op <;> cases found <;> rfl
      have commutes : op = .add ∨ op = .mul := by
        cases op <;> cases found <;> simp
      subst same
      by_cases missing : left.isNull = true ∨ right.isNull = true
      · have swapped : (right.isNull || left.isNull) = true := by simpa [or_comm] using missing
        have direct : (left.isNull || right.isNull) = true := by simpa using missing
        simp [apply, swapped, direct, Value.zerosApart_of_isNull missing]
      · obtain ⟨leftThere, rightThere⟩ : left.isNull = false ∧ right.isNull = false := by
          simpa using missing
        have number : left.number?.isSome = true :=
          (numeric rfl).resolve_right (Bool.eq_false_iff.mp leftThere)
        simpa [apply, leftThere, rightThere] using Arithmetic.apply_comm_iff commutes number
  | logical op => cases binds

end Operator

end ScalarSql
