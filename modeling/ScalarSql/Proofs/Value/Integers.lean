import ScalarSql.Proofs.Expr.Narrowing
import ScalarSql.Proofs.Number.BoundedInt
import ScalarSql.Value.Arithmetic

/-!
# Arithmetic on integers

An operator on integers gives an integer, `Arithmetic.Gives`, and arithmetic is exact: it finds
this integer in the wider of the two types, or reports that it has no room there.  Dividing by
zero gives `NULL`.

**Division** truncates toward zero.  `Truncates` says this of a quotient together with its
remainder, which is less than the divisor and on the side of the dividend.  The two are
determined by that, `Truncates.unique`.

**The least integer.**  A remainder is only computed where its quotient has room.  Quotients of
integers in range are in range, except that of the least integer by `-1`, `ofInt?_tdiv`.  There
the remainder is zero, and an overflow is reported all the same.  `Arithmetic.apply_integers`
says that this is the one pair of operands of each type where arithmetic is not exact.
-/

set_option autoImplicit false

namespace ScalarSql

/-! ## Quotients and remainders -/

/-- A quotient and a remainder of a division that truncates toward zero. -/
structure Truncates (dividend divisor quotient remainder : ℤ) : Prop where
  sum : divisor * quotient + remainder = dividend
  smaller : remainder.natAbs < divisor.natAbs
  /-- Only a negative dividend leaves a negative remainder, and only a positive one a positive
  remainder. -/
  below : remainder < 0 → dividend < 0
  above : 0 < remainder → 0 < dividend

namespace Truncates

variable {dividend divisor quotient remainder otherQuotient otherRemainder : ℤ}

theorem divisor_ne_zero (truncates : Truncates dividend divisor quotient remainder) :
    divisor ≠ 0 := by
  have smaller := truncates.smaller
  omega

/-- Numbers can be divided by any number but zero. -/
theorem of_ne_zero (dividend : ℤ) (nonzero : divisor ≠ 0) :
    Truncates dividend divisor (dividend.tdiv divisor) (dividend.tmod divisor) := by
  constructor
  case sum => exact Int.mul_tdiv_add_tmod dividend divisor
  case smaller =>
    rw [Int.natAbs_tmod]
    exact Nat.mod_lt _ (Int.natAbs_pos.mpr nonzero)
  case below =>
    intro negative
    by_contra nonneg
    have := Int.tmod_nonneg divisor (not_lt.mp nonneg)
    omega
  case above =>
    intro positive
    by_contra nonpos
    have turned := Int.tmod_nonneg divisor (Int.neg_nonneg_of_nonpos (not_lt.mp nonpos))
    rw [Int.neg_tmod] at turned
    omega

/-- **There is one quotient and one remainder.** -/
theorem unique (first : Truncates dividend divisor quotient remainder)
    (second : Truncates dividend divisor otherQuotient otherRemainder) :
    quotient = otherQuotient ∧ remainder = otherRemainder := by
  have multiple : divisor * (quotient - otherQuotient) = otherRemainder - remainder := by
    rw [Int.mul_sub]
    have := first.sum
    have := second.sum
    omega
  -- Both remainders are on one side of zero, so that they differ by less than the divisor.
  have close : (otherRemainder - remainder).natAbs < divisor.natAbs := by
    have := first.smaller
    have := second.smaller
    have := first.below
    have := first.above
    have := second.below
    have := second.above
    omega
  have same : otherRemainder - remainder = 0 :=
    Int.eq_zero_of_dvd_of_natAbs_lt_natAbs ⟨_, multiple.symm⟩ close
  rw [same, Int.mul_eq_zero] at multiple
  have nonzero := first.divisor_ne_zero
  omega

end Truncates

namespace Arithmetic

/-- The integer that an operator gives for two integers. -/
inductive Gives : Arithmetic → ℤ → ℤ → ℤ → Prop
  | add (left right : ℤ) : Gives .add left right (left + right)
  | sub (left right : ℤ) : Gives .sub left right (left - right)
  | mul (left right : ℤ) : Gives .mul left right (left * right)
  | div {left right quotient remainder : ℤ} (truncates : Truncates left right quotient remainder) :
      Gives .div left right quotient
  | rem {left right quotient remainder : ℤ} (truncates : Truncates left right quotient remainder) :
      Gives .rem left right remainder

/-- An operator gives an integer unless it divides by zero. -/
theorem exists_gives_iff {op : Arithmetic} {left right : ℤ} :
    (∃ whole, op.Gives left right whole) ↔ ¬ (op.divides = true ∧ right = 0) := by
  constructor
  · rintro ⟨whole, gives⟩ ⟨divides, zero⟩
    cases gives with
    | add | sub | mul => cases divides
    | div truncates | rem truncates => exact truncates.divisor_ne_zero zero
  · intro divisible
    cases op with
    | add => exact ⟨_, .add left right⟩
    | sub => exact ⟨_, .sub left right⟩
    | mul => exact ⟨_, .mul left right⟩
    | div => exact ⟨_, .div (.of_ne_zero left fun zero => divisible ⟨rfl, zero⟩)⟩
    | rem => exact ⟨_, .rem (.of_ne_zero left fun zero => divisible ⟨rfl, zero⟩)⟩

end Arithmetic

/-! ## Integers in range -/

namespace BoundedInt

variable {bits : ℕ}

/-- The operands are the least integer and `-1`, whose quotient is out of range. -/
def Unquotable (left right : BoundedInt bits) : Prop :=
  left.val = -(twoPow (bits - 1) : ℤ) ∧ right.val = -1

instance (left right : BoundedInt bits) : Decidable (left.Unquotable right) :=
  inferInstanceAs (Decidable (_ ∧ _))

/-- **Quotients are in range** except for one. -/
theorem ofInt?_tdiv {left right : BoundedInt bits} :
    (ofInt? (left.val.tdiv right.val) : Option (BoundedInt bits)) = none ↔
      left.Unquotable right := by
  have lower := left.lower
  have upper := left.upper
  rw [ofInt?_eq_none, Unquotable]
  constructor
  · intro outside
    -- No quotient has a larger magnitude than its dividend, so that this one has the same.
    have magnitude : (left.val.tdiv right.val).natAbs = left.val.natAbs / right.val.natAbs :=
      Int.natAbs_tdiv left.val right.val
    have atMost := Nat.div_le_self left.val.natAbs right.val.natAbs
    have whole : left.val.natAbs / right.val.natAbs = left.val.natAbs := by omega
    rcases Nat.div_eq_self.mp whole with zero | unit
    · omega
    · rcases Int.natAbs_eq_iff.mp unit with one | minusOne
      · rw [one, Nat.cast_one, Int.tdiv_one] at outside
        omega
      · exact ⟨by omega, minusOne⟩
  · rintro ⟨least, minusOne⟩
    rw [least, minusOne, Int.tdiv_neg, Int.tdiv_one]
    omega

end BoundedInt

namespace Arithmetic

variable {bits : ℕ} {op : Arithmetic} {left right : BoundedInt bits} {whole : ℤ}

/-- **An operator finds the integer that it gives**, if this is in range, unless a remainder has
no quotient. -/
theorem onIntegers?_of_gives (gives : op.Gives left.val right.val whole)
    (quotable : ¬ (op = .rem ∧ left.Unquotable right)) :
    op.onIntegers? left right = BoundedInt.ofInt? whole := by
  generalize isLeft : left.val = first at gives
  generalize isRight : right.val = second at gives
  cases gives with
  | add | sub | mul => rw [onIntegers?, isLeft, isRight]
  | div truncates =>
      obtain ⟨rfl, -⟩ := truncates.unique (.of_ne_zero first truncates.divisor_ne_zero)
      rw [onIntegers?, isLeft, isRight]
  | rem truncates =>
      obtain ⟨-, rfl⟩ := truncates.unique (.of_ne_zero first truncates.divisor_ne_zero)
      subst isLeft isRight
      have inRange := mt BoundedInt.ofInt?_tdiv.mp (not_and.mp quotable rfl)
      obtain ⟨quotient, found⟩ := Option.ne_none_iff_exists'.mp inRange
      rw [onIntegers?, found, Option.bind_some]

theorem onIntegers?_of_unquotable (least : left.Unquotable right) :
    rem.onIntegers? left right = none := by
  rw [onIntegers?, BoundedInt.ofInt?_tdiv.mpr least, Option.bind_none]

end Arithmetic

/-! ## Values -/

namespace DataType

/-- The wider of two types of integers. -/
def widerInteger (left right : DataType) : DataType :=
  if left = .long ∨ right = .long then .long else .int

/-- The least integer of a type of integers. -/
def leastInteger (type : DataType) : ℤ :=
  if type = .long then -(twoPow 63 : ℤ) else -(twoPow 31 : ℤ)

end DataType

namespace Arithmetic

/-- What arithmetic answers for two integers when the result has the given type. -/
structure Answers (op : Arithmetic) (type : DataType) (left right : ℤ)
    (answer : Except Error Value) : Prop where
  /-- The answer is `NULL` for a division by zero and for nothing else. -/
  null : answer = .ok .null ↔ op.divides = true ∧ right = 0
  /-- The answer is a value exactly if there is room for the integer, and then it is this
  integer. -/
  value : ∀ whole, op.Gives left right whole → ∀ result, answer = .ok result ↔
    Value.IsInteger type result whole ∧
      ¬ (op = .rem ∧ left = type.leastInteger ∧ right = -1)
  /-- The answer is an overflow exactly if there is no room for the integer, or if it is the
  remainder of the least integer by `-1`. -/
  overflow : ∀ whole, op.Gives left right whole → (answer = .error op.overflow ↔
    (∀ result, ¬ Value.IsInteger type result whole) ∨
      (op = .rem ∧ left = type.leastInteger ∧ right = -1))

/-- The values of a type of integers are the integers of so many bits. -/
structure Holds (type : DataType) (bits : ℕ) (wrap : BoundedInt bits → Value) : Prop where
  present : ∀ number, wrap number ≠ .null
  isInteger : ∀ value whole,
    Value.IsInteger type value whole ↔ (BoundedInt.ofInt? whole).map wrap = some value
  least : type.leastInteger = -(twoPow (bits - 1) : ℤ)

theorem holds_int : Holds .int 32 .int where
  present _ := Value.noConfusion
  isInteger _ _ := Value.isInteger_int
  least := if_neg (by decide)

theorem holds_long : Holds .long 64 .long where
  present _ := Value.noConfusion
  isInteger _ _ := Value.isInteger_long
  least := if_pos rfl

variable {type : DataType} {bits : ℕ} {wrap : BoundedInt bits → Value}

/-- Where it does not divide by zero, arithmetic goes by the integers. -/
theorem integral_of_divisible {op : Arithmetic} {left right : BoundedInt bits}
    (divisible : ¬ (op.divides = true ∧ right.val = 0)) : op.integral wrap left right
      = (op.onIntegers? left right).elim (.error op.overflow) fun result => .ok (wrap result) := by
  have regular : ¬ (op.divides && right.val == 0) = true := by simpa using divisible
  rw [integral, if_neg regular]
  cases op.onIntegers? left right <;> rfl

/-- **One width of integers**: the integer that the operator gives, if there is room for it and it
is no remainder without a quotient. -/
theorem integral_of_gives {op : Arithmetic} {left right : BoundedInt bits} {whole : ℤ}
    (gives : op.Gives left.val right.val whole) : op.integral wrap left right
      = if op = .rem ∧ left.Unquotable right then .error op.overflow
        else (BoundedInt.ofInt? whole).elim (.error op.overflow)
          fun result => .ok (wrap result) := by
  rw [integral_of_divisible (exists_gives_iff.mp ⟨whole, gives⟩)]
  by_cases unquotable : op = .rem ∧ left.Unquotable right
  · obtain ⟨rfl, least⟩ := unquotable
    rw [if_pos ⟨rfl, least⟩, onIntegers?_of_unquotable least, Option.elim_none]
  · rw [if_neg unquotable, onIntegers?_of_gives gives unquotable]

/-- Both operands are of the type of the result. -/
theorem answers_integral (holds : Holds type bits wrap) (op : Arithmetic)
    (left right : BoundedInt bits) :
    op.Answers type left.val right.val (op.integral wrap left right) := by
  constructor
  case null =>
    by_cases division : op.divides = true ∧ right.val = 0
    · refine iff_of_true ?_ division
      rw [integral, if_pos (by simpa using division)]
    · refine iff_of_false ?_ division
      rw [integral_of_divisible division]
      cases op.onIntegers? left right with
      | none => exact nofun
      | some result => exact fun same => holds.present result (Except.ok.inj same)
  case value =>
    intro whole gives result
    rw [integral_of_gives gives, holds.isInteger, holds.least]
    split
    · next unquotable => exact iff_of_false nofun fun both => both.2 unquotable
    · next quotable =>
        apply Iff.trans _ (and_iff_left quotable).symm
        cases (BoundedInt.ofInt? whole : Option (BoundedInt bits)) <;> simp
  case overflow =>
    intro whole gives
    simp only [integral_of_gives gives, holds.isInteger, holds.least]
    split
    · next unquotable => exact iff_of_true rfl (.inr unquotable)
    · next quotable =>
        apply Iff.trans _ (or_iff_left quotable).symm
        cases (BoundedInt.ofInt? whole : Option (BoundedInt bits)) <;> simp

/-- **Arithmetic on integers is exact.**  The result has the wider of the types of the operands.
It is `NULL` if and only if the operator divides by zero.  Otherwise the operator gives an
integer, and the result is this integer if it is in range and an overflow if it is not, except
for the remainder of the least integer by `-1`, which is an overflow although it is zero. -/
theorem apply_integers (op : Arithmetic) {leftType rightType : DataType} {left right : Value}
    {first second : ℤ} (isLeft : Value.IsInteger leftType left first)
    (isRight : Value.IsInteger rightType right second) :
    resultType? leftType rightType = some (leftType.widerInteger rightType) ∧
      ((∃ whole, op.Gives first second whole) ↔ ¬ (op.divides = true ∧ second = 0)) ∧
      op.Answers (leftType.widerInteger rightType) first second
        ((Operator.arithmetic op).apply left right) := by
  refine ⟨?_, exists_gives_iff, ?_⟩
  · cases isLeft <;> cases isRight <;> rfl
  · cases isLeft with
    | int left =>
        cases isRight with
        | int right => exact answers_integral holds_int op left right
        | long right => exact answers_integral holds_long op left.widen right
    | long left =>
        cases isRight with
        | int right => exact answers_integral holds_long op left right.widen
        | long right => exact answers_integral holds_long op left right

/-- By `-1` the least 32-bit integer leaves the remainder zero if that is a 64-bit integer, and
none otherwise. -/
theorem apply_integers_of_least :
    let least : BoundedInt 32 := ⟨-2147483648, by decide, by decide⟩
    let narrow : BoundedInt 32 := ⟨-1, by decide, by decide⟩
    let wide : BoundedInt 64 := ⟨-1, by decide, by decide⟩
    rem.Gives (-2147483648) (-1) 0 ∧
      (Operator.arithmetic .rem).apply (.int least) (.int narrow) = .error rem.overflow ∧
      (Operator.arithmetic .rem).apply (.int least) (.long wide)
        = .ok (.long ⟨0, by decide, by decide⟩) := by
  intro least narrow wide
  have truncates : Truncates (-2147483648) (-1) 2147483648 0 := by constructor <;> decide
  have zero : rem.Gives (-2147483648) (-1) 0 := .rem truncates
  obtain ⟨-, -, sameWidth⟩ := apply_integers .rem (.int least) (.int narrow)
  obtain ⟨-, -, wider⟩ := apply_integers .rem (.int least) (.long wide)
  refine ⟨zero, (sameWidth.overflow 0 zero).mpr (.inr ⟨rfl, rfl, rfl⟩), ?_⟩
  refine (wider.value 0 zero _).mpr ⟨.long ⟨0, by decide, by decide⟩, ?_⟩
  rintro ⟨-, isLeast, -⟩
  revert isLeast
  decide

end Arithmetic

end ScalarSql
