import ScalarSql.Proofs.Aggregate.Counting
import ScalarSql.Proofs.Value.Conversion
import ScalarSql.Proofs.Value.Exchange

/-!
# Updates that fail

An update of an accumulator fails in one of two places, and what it leaves behind depends on
the place.  A value that cannot be cast to the type of the sum leaves the state as it was.  A
value that cannot be added to the total takes the total with it: the accumulator then shows
`NULL`, and it takes in later values as if there had been none before, while an average goes
on counting the values that are gone.
-/

set_option autoImplicit false

namespace ScalarSql

/-! ## Results that are not `NULL` -/

namespace Double

theorem divideHalfEven_pos {numerator denominator : Nat} (positive : 0 < denominator)
    (large : denominator ≤ numerator) : 0 < divideHalfEven numerator denominator := by
  have quotient : 0 < numerator / denominator := Nat.div_pos large positive
  unfold divideHalfEven
  dsimp only
  split
  · exact quotient
  · split <;> omega

theorem isZero_ofParts {negative : Bool} {significand : Nat} {exponent : Int}
    (nonzero : significand ≠ 0) :
    (if canonical : CanonicalBinary significand exponent then
      Double.finite negative significand exponent canonical
    else .infinite negative).isZero = false := by
  split
  · exact beq_eq_false_iff_ne.mpr nonzero
  · rfl

/-- **An integer other than zero is not rounded to zero.** -/
theorem isZero_ofInt {value : Int} (nonzero : value ≠ 0) : (ofInt value).isZero = false := by
  have positive : value.natAbs ≠ 0 := Int.natAbs_ne_zero.mpr nonzero
  have leading : twoPow value.natAbs.log2 ≤ value.natAbs := Nat.log2_self_le positive
  have one : Nat.log2 1 = 0 := by decide
  have exponent : leadingExponent value.natAbs 1 = value.natAbs.log2 := by
    simp [leadingExponent, one, Nat.not_lt.mpr leading]
  have carried : ∀ {rounded : Nat}, 0 < rounded →
      (if rounded == twoPow 53 then twoPow 52 else rounded) ≠ 0 := by
    intro rounded positive
    split
    · exact Nat.ne_of_gt (twoPow_pos 52)
    · exact Nat.ne_of_gt positive
  have rounded : ∀ power : Int, power ≤ value.natAbs.log2 →
      0 < if 0 ≤ power then divideHalfEven value.natAbs (1 * twoPow power.toNat)
        else divideHalfEven (value.natAbs * twoPow (-power).toNat) 1 := by
    intro power atMost
    split
    · have small : twoPow power.toNat ≤ twoPow value.natAbs.log2 :=
        Nat.pow_le_pow_right (by decide) (by omega)
      rw [Nat.one_mul]
      exact divideHalfEven_pos (twoPow_pos _) (Nat.le_trans small leading)
    · exact divideHalfEven_pos Nat.one_pos
        (Nat.mul_pos (Nat.pos_of_ne_zero positive) (twoPow_pos _))
  unfold ofInt ofRatio
  simp only [positive, if_false, exponent]
  exact isZero_ofParts (carried (rounded _ (by omega)))

end Double

theorem Decimal.isZero_ofLong {value : BoundedInt 64} (nonzero : value.val ≠ 0) :
    (ofLong value).isZero = false :=
  beq_eq_false_iff_ne.mpr (Int.natAbs_ne_zero.mpr nonzero)

namespace Arithmetic

variable {op : Arithmetic} {left right result : Value}

theorem isNull_of_integral {bits : Nat} {wrap : BoundedInt bits → Value}
    {left right : BoundedInt bits} (wraps : ∀ number, (wrap number).isNull = false)
    (nonzero : (op.divides && right.val == 0) = false)
    (computed : op.integral wrap left right = .ok result) : result.isNull = false := by
  rw [integral, nonzero] at computed
  simp only [Bool.false_eq_true, if_false] at computed
  split at computed <;> cases computed
  exact wraps _

theorem isNull_of_floating
    (nonzero : ∀ number, right.toDouble = .ok number → (op.divides && number.isZero) = false)
    (computed : op.floating left right = .ok result) : result.isNull = false := by
  unfold floating at computed
  split at computed
  · cases computed
  · split at computed
    · cases computed
    · next found =>
        rw [nonzero _ found] at computed
        cases computed
        rfl

theorem isNull_of_exact
    (nonzero : ∀ number, right.toDecimal = .ok number → (op.divides && number.isZero) = false)
    (computed : op.exact left right = .ok result) : result.isNull = false := by
  unfold exact at computed
  split at computed
  · cases computed
  · split at computed
    · cases computed
    · next found =>
        rw [nonzero _ found] at computed
        simp only [Bool.false_eq_true, if_false] at computed
        split at computed <;> cases computed
        rfl

/-- Arithmetic that does not divide gives no `NULL`. -/
theorem isNull_of_apply (total : op.divides = false) (computed : op.apply left right = .ok result) :
    result.isNull = false := by
  unfold apply at computed
  split at computed
  all_goals
    first
    | exact isNull_of_integral (fun _ => rfl) (by rw [total]; rfl) computed
    | exact isNull_of_floating (fun _ _ => by rw [total]; rfl) computed
    | exact isNull_of_exact (fun _ _ => by rw [total]; rfl) computed

end Arithmetic

/-! ## Runs of updates -/

namespace Accumulator

/-- The state after a run of updates, some of which may fail. -/
def after (accumulator : Accumulator) (updates : List (Value × DataType)) : Accumulator :=
  updates.foldl (fun state update => (state.step update.1 update.2).state) accumulator

/-- What a run of updates shows: of each update whether it fails, and the result after it. -/
def shown (accumulator : Accumulator) :
    List (Value × DataType) → List (Option Error × Except Error Value)
  | [] => []
  | (value, sumType) :: rest =>
      let step := accumulator.step value sumType
      (step.failure, step.state.finish) :: step.state.shown rest

/-- Two states that have one result and that later updates do not tell apart. -/
def Indistinguishable (left right : Accumulator) : Prop :=
  left.finish = right.finish ∧ ∀ updates, left.shown updates = right.shown updates

/-- The state with the total forgotten; an average keeps the number of its values. -/
def withoutTotal : Accumulator → Accumulator
  | .sum _ => .sum none
  | .avg _ rows => .avg none rows
  | other => other

/-- The total that a state holds. -/
def total? : Accumulator → Option Value
  | .sum total | .avg total _ => total
  | _ => none

/-- The invariant of a state after a number of updates: a total is not `NULL`, and an average
has counted some of the values. -/
def WellSummed (updates : Nat) : Accumulator → Prop
  | .sum total => ∀ value ∈ total, value.isNull = false
  | .avg total rows => rows ≤ updates ∧ ∀ value ∈ total, value.isNull = false ∧ 0 < rows
  | _ => True

/-! ## One update -/

/-- **An addition has three ends**: the value is not cast, it is not added to the total, or it
is in the new total. -/
theorem addStep_cases (keep : Accumulator) (next : Option Value → Accumulator)
    (failed : Accumulator) (total : Option Value) (value : Value) (sumType : DataType) :
    (∃ error, value.castTo sumType false = .error error ∧
      addStep keep next failed total value sumType = ⟨keep, some error⟩) ∨
    (∃ addend error, value.castTo sumType false = .ok addend ∧
      addTo total addend = .error error ∧
      addStep keep next failed total value sumType = ⟨failed, some error⟩) ∨
    (∃ addend result, value.castTo sumType false = .ok addend ∧
      addTo total addend = .ok result ∧
      addStep keep next failed total value sumType = ⟨next (some result), none⟩) := by
  cases converted : value.castTo sumType false with
  | error error => exact .inl ⟨error, rfl, by simp only [addStep, converted]⟩
  | ok addend =>
      cases added : addTo total addend with
      | error error =>
          exact .inr (.inl ⟨addend, error, rfl, added, by simp only [addStep, converted, added]⟩)
      | ok result =>
          exact .inr (.inr ⟨addend, result, rfl, added, by simp only [addStep, converted, added]⟩)

/-- A total is only lost when there is one. -/
theorem addStep_failed {keep : Accumulator} {next : Option Value → Accumulator}
    {failed : Accumulator} {total : Option Value} {value : Value} {sumType : DataType}
    {error : Error} (fails : (addStep keep next failed total value sumType).failure = some error) :
    (value.castTo sumType false = .error error ∧
      (addStep keep next failed total value sumType).state = keep) ∨
    ∃ current addend, total = some current ∧ value.castTo sumType false = .ok addend ∧
      (Operator.arithmetic .add).apply current addend = .error error ∧
      (addStep keep next failed total value sumType).state = failed := by
  rcases addStep_cases keep next failed total value sumType with
    ⟨cause, notCast, step⟩ | ⟨addend, cause, converted, notAdded, step⟩ | ⟨_, _, -, -, step⟩
  · rw [step] at fails ⊢
    cases fails
    exact .inl ⟨notCast, rfl⟩
  · rw [step] at fails ⊢
    cases fails
    cases total with
    | none => cases notAdded
    | some current => exact .inr ⟨current, addend, rfl, converted, notAdded, rfl⟩
  · rw [step] at fails
    cases fails

/-- **What an update that fails leaves behind**: the state as it was, or the state without its
total. -/
theorem step_failed {accumulator : Accumulator} {value : Value} {sumType : DataType}
    {error : Error} (fails : (accumulator.step value sumType).failure = some error) :
    value.isNull = false ∧
      ((value.castTo sumType false = .error error ∧
          (accumulator.step value sumType).state = accumulator) ∨
        ∃ total addend, accumulator.total? = some total ∧
          value.castTo sumType false = .ok addend ∧
          (Operator.arithmetic .add).apply total addend = .error error ∧
          (accumulator.step value sumType).state = accumulator.withoutTotal) := by
  unfold step at fails ⊢
  cases given : value.isNull with
  | true =>
      rw [given] at fails
      cases fails
  | false =>
      simp only [given, Bool.false_eq_true, if_false] at fails ⊢
      refine ⟨trivial, ?_⟩
      cases accumulator with
      | count _ | min _ | max _ => cases fails
      | sum total | avg total rows => exact addStep_failed fails

/-- A value that is not `NULL` and that can be cast is the total of a state without one. -/
theorem step_withoutTotal {accumulator : Accumulator} {value total addend : Value}
    {sumType : DataType} (given : value.isNull = false)
    (adds : accumulator.total? = some total) (converted : value.castTo sumType false = .ok addend) :
    (accumulator.withoutTotal.step value sumType).failure = none := by
  cases accumulator with
  | count _ | min _ | max _ => cases adds
  | sum _ | avg _ _ => simp [step, withoutTotal, given, addStep, converted, addTo]

/-! ## The invariant -/

theorem isNull_of_addTo {total : Option Value} {addend result : Value}
    (given : addend.isNull = false) (totalGiven : ∀ value ∈ total, value.isNull = false)
    (added : addTo total addend = .ok result) : result.isNull = false := by
  cases total with
  | none =>
      cases added
      exact given
  | some current =>
      have both : (current.isNull || addend.isNull) = false := by
        rw [totalGiven current rfl, given]
        rfl
      simp only [addTo, Operator.apply, both, Bool.false_eq_true, if_false] at added
      exact Arithmetic.isNull_of_apply rfl added

theorem WellSummed.mono {updates more : Nat} {accumulator : Accumulator}
    (summed : accumulator.WellSummed updates) (fewer : updates ≤ more) :
    accumulator.WellSummed more := by
  cases accumulator with
  | count _ | sum _ | min _ | max _ => exact summed
  | avg _ _ => exact ⟨Nat.le_trans summed.1 fewer, summed.2⟩

/-- An addition leaves the state as it was, without its total, or with one that is not
`NULL`. -/
theorem state_addStep (keep : Accumulator) (next : Option Value → Accumulator)
    (failed : Accumulator) {total : Option Value} {value : Value} (sumType : DataType)
    (given : value.isNull = false) (totalGiven : ∀ value ∈ total, value.isNull = false) :
    (addStep keep next failed total value sumType).state = keep ∨
      (addStep keep next failed total value sumType).state = failed ∨
      ∃ result, result.isNull = false ∧
        (addStep keep next failed total value sumType).state = next (some result) := by
  rcases addStep_cases keep next failed total value sumType with
    ⟨_, -, step⟩ | ⟨_, _, -, -, step⟩ | ⟨addend, result, converted, added, step⟩
  · exact .inl (step ▸ rfl)
  · exact .inr (.inl (step ▸ rfl))
  · have addendGiven : addend.isNull = false := Value.isNull_of_castTo given converted
    exact .inr (.inr ⟨result, isNull_of_addTo addendGiven totalGiven added, step ▸ rfl⟩)

/-- **Every update keeps the invariant**, whether or not it fails. -/
theorem WellSummed.step {updates : Nat} {accumulator : Accumulator}
    (summed : accumulator.WellSummed updates) (value : Value) (sumType : DataType) :
    (accumulator.step value sumType).state.WellSummed (updates + 1) := by
  unfold Accumulator.step
  cases given : value.isNull with
  | true => exact summed.mono (Nat.le_succ updates)
  | false =>
      simp only [Bool.false_eq_true, if_false]
      cases accumulator with
      | count _ | min _ | max _ => trivial
      | sum total =>
          dsimp only
          rcases state_addStep (.sum total) .sum (.sum none) sumType given summed with
            kept | lost | ⟨result, resultGiven, added⟩
          · rw [kept]
            exact summed
          · rw [lost]
            exact nofun
          · rw [added]
            rintro _ ⟨⟩
            exact resultGiven
      | avg total rows =>
          dsimp only
          have totalGiven : ∀ value ∈ total, value.isNull = false :=
            fun value held => (summed.2 value held).1
          rcases state_addStep (.avg total rows) (.avg · (rows + 1)) (.avg none rows) sumType given
              totalGiven with
            kept | lost | ⟨result, resultGiven, added⟩
          · rw [kept]
            exact summed.mono (Nat.le_succ updates)
          · rw [lost]
            exact ⟨Nat.le_succ_of_le summed.1, nofun⟩
          · rw [added]
            refine ⟨Nat.succ_le_succ summed.1, ?_⟩
            rintro _ ⟨⟩
            exact ⟨resultGiven, Nat.succ_pos rows⟩

/-- The invariant holds after every run of updates. -/
theorem wellSummed_after (function : AggregateFunction) (updates : List (Value × DataType)) :
    ((start function).after updates).WellSummed updates.length := by
  suffices run : ∀ (state : Accumulator) (count : Nat), state.WellSummed count →
      (state.after updates).WellSummed (count + updates.length) by
    have begins : (start function).WellSummed 0 := by
      cases function with
      | avg => exact ⟨Nat.le_refl 0, nofun⟩
      | sum => exact nofun
      | count | min | max => trivial
    simpa using run (start function) 0 begins
  induction updates with
  | nil => exact fun _ _ summed => summed
  | cons update rest ih =>
      intro state count summed
      have later := ih _ _ (summed.step update.1 update.2)
      rwa [show count + 1 + rest.length = count + (update :: rest).length by
        rw [List.length_cons]; omega] at later

/-- The average of a number of values that is positive and representable is not `NULL`. -/
theorem isNull_of_average {total result : Value} {rows : Nat} (given : total.isNull = false)
    (some : 0 < rows) (few : rows < twoPow 63)
    (computed : (Operator.arithmetic .div).apply total (divisor total rows) = .ok result) :
    result.isNull = false := by
  have divisorGiven : (divisor total rows).isNull = false := by
    unfold divisor
    split <;> rfl
  have both : (total.isNull || (divisor total rows).isNull) = false := by
    rw [given, divisorGiven]
    rfl
  simp only [Operator.apply, both, Bool.false_eq_true, if_false] at computed
  have nonzero : (Double.ofInt rows).isZero = false :=
    Double.isZero_ofInt (Int.natCast_ne_zero.mpr (Nat.ne_of_gt some))
  cases total with
  | null => cases given
  | decimal total =>
      rw [Arithmetic.apply_eq_exact ⟨rfl, rfl⟩ (.inl rfl)] at computed
      refine Arithmetic.isNull_of_exact ?_ computed
      intro number found
      rw [divisor, Value.toDecimal, Except.ok.injEq] at found
      have nonzero : (BoundedInt.wrap rows : BoundedInt 64).val ≠ 0 := by
        rw [BoundedInt.val_wrap_of_lt few]
        exact Int.natCast_ne_zero.mpr (Nat.ne_of_gt some)
      rw [← found, Decimal.isZero_ofLong nonzero, Bool.and_false]
  | int _ | long _ | double _ | string _ | boolean _ | struct _ | array _ =>
      rw [Arithmetic.apply_eq_floating (.inr rfl)] at computed
      refine Arithmetic.isNull_of_floating ?_ computed
      rintro _ ⟨⟩
      rw [nonzero, Bool.and_false]

/-- A state with a total does not show `NULL`, as long as the number of its values is
representable. -/
theorem finish_ne_null {updates : Nat} {accumulator : Accumulator} {total : Value}
    (summed : accumulator.WellSummed updates) (few : updates < twoPow 63)
    (holds : accumulator.total? = some total) : accumulator.finish ≠ .ok .null := by
  intro shows
  cases accumulator with
  | count _ | min _ | max _ => cases holds
  | sum _ =>
      cases holds
      cases shows
      exact absurd (summed .null rfl) (by decide)
  | avg _ rows =>
      cases holds
      obtain ⟨given, some⟩ := summed.2 total rfl
      have shown := isNull_of_average given some (Nat.lt_of_le_of_lt summed.1 few) shows
      cases shown

theorem finish_withoutTotal {accumulator : Accumulator} {total : Value}
    (holds : accumulator.total? = some total) :
    accumulator.withoutTotal.finish = .ok .null := by
  cases accumulator with
  | count _ | min _ | max _ => cases holds
  | sum _ | avg _ _ => rfl

/-- **A total that is lost is missed**: the update that failed succeeds when it is made again. -/
theorem not_indistinguishable {accumulator : Accumulator} {value total addend : Value}
    {sumType : DataType} {error : Error}
    (fails : (accumulator.step value sumType).failure = some error)
    (holds : accumulator.total? = some total)
    (converted : value.castTo sumType false = .ok addend) :
    ¬ accumulator.withoutTotal.Indistinguishable accumulator := by
  rintro ⟨-, alike⟩
  have again := List.head_eq_of_cons_eq (alike [(value, sumType)])
  have failures := (Prod.mk.inj again).1
  rw [step_withoutTotal (step_failed fails).1 holds converted, fails] at failures
  cases failures

/-- **Failed updates of a reachable state.**  If the value cannot be cast, the state is as it was
before.  Otherwise it cannot be added to the total, and the total is lost: the result is `NULL`
although it was not, and there are later updates that tell the state from the one before. -/
theorem failed_update (function : AggregateFunction) (earlier : List (Value × DataType))
    {value : Value} {sumType : DataType} {error : Error}
    (fails : (((start function).after earlier).step value sumType).failure = some error) :
    let before := (start function).after earlier
    let state := (before.step value sumType).state
    (value.castTo sumType false = .error error ∧ state = before) ∨
      ∃ total addend, before.total? = some total ∧ value.castTo sumType false = .ok addend ∧
        (Operator.arithmetic .add).apply total addend = .error error ∧
        state = before.withoutTotal ∧ state.finish = .ok .null ∧
        (earlier.length < twoPow 63 → before.finish ≠ .ok .null) ∧
        ¬ state.Indistinguishable before := by
  intro before state
  have summed : before.WellSummed earlier.length := wellSummed_after function earlier
  rcases (step_failed fails).2 with kept | ⟨total, addend, holds, converted, notAdded, lost⟩
  · exact .inl kept
  · refine .inr ⟨total, addend, holds, converted, notAdded, lost, ?_, ?_, ?_⟩
    · rw [show state = before.withoutTotal from lost]
      exact finish_withoutTotal holds
    · exact fun few => finish_ne_null summed few holds
    · rw [show state = before.withoutTotal from lost]
      exact not_indistinguishable fails holds converted

/-- A sum of the largest long integer cannot take in one more, and forgets it. -/
theorem failed_update_of_largest :
    let largest : Value := .long ⟨twoPow 63 - 1, by decide, by decide⟩
    let one : Value := .long ⟨1, by decide, by decide⟩
    let before := (start .sum).after [(largest, .long)]
    let state := (before.step one .long).state
    before.finish = .ok largest ∧ (before.step one .long).failure = some Arithmetic.add.overflow ∧
      state.finish = .ok .null ∧ ¬ state.Indistinguishable before := by
  intro largest one before state
  have overflows : (before.step one .long).failure = some Arithmetic.add.overflow := by decide
  refine ⟨rfl, overflows, ?_⟩
  rcases failed_update .sum [(largest, .long)] overflows with ⟨notCast, -⟩ |
    ⟨_, _, -, -, -, -, shows, -, apart⟩
  · cases notCast
  · exact ⟨shows, apart⟩

end Accumulator

end ScalarSql
