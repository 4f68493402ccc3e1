import ScalarSql.Proofs.Aggregate.Counting
import ScalarSql.Proofs.Value.Exchange
import ScalarSql.Proofs.Value.Integers

/-!
# Sums of integers and counts

`SUM` adds integers one after the other to a total of 64 bits, which is missing before the first
of them.  One update, `Accumulator.update_summing`, adds the integer exactly or ends in an
overflow.  A run therefore fails at the first total that is out of range, also when a later
integer would bring it back: what has to be in range is the total of every prefix,
`Accumulator.ends_run`.  `COUNT` takes in everything, `Accumulator.foldlM_update_count`.
-/

set_option autoImplicit false

namespace ScalarSql

open BoundedInt (InRange)

namespace Value

/-! ## Exact totals -/

/-- The exact sum of the integers among some values. -/
def integerSum (values : List Value) : ℤ :=
  ((values.filterMap integer?).map BoundedInt.val).sum

variable {value : Value}

theorem integerSum_nil : integerSum [] = 0 := rfl

theorem integerSum_of_isNull (missing : value.isNull = true) (rest : List Value) :
    integerSum (value :: rest) = integerSum rest := by
  rw [isNull_iff.mp missing]
  rfl

theorem integerSum_of_integer? {number : BoundedInt 64} (holds : value.integer? = some number)
    (rest : List Value) : integerSum (value :: rest) = number.val + integerSum rest := by
  rw [integerSum, List.filterMap_cons_some holds, List.map_cons, List.sum_cons]
  rfl

theorem isNull_of_integer? {number : BoundedInt 64} (holds : value.integer? = some number) :
    value.isNull = false := by
  cases value <;> first | rfl | cases holds

/-- A value of an integer type is `NULL` or holds an integer. -/
theorem integer?_of_hasType (typed : value.hasType .int = true ∨ value.hasType .long = true) :
    value.isNull = true ∨ ∃ number, value.integer? = some number := by
  cases value with
  | null => exact .inl rfl
  | int number => exact .inr ⟨number.widen, rfl⟩
  | long number => exact .inr ⟨number, rfl⟩
  | _ => rcases typed with typed | typed <;> cases typed

/-- An integer is added as a 64-bit integer. -/
theorem castTo_long {number : BoundedInt 64} (holds : value.integer? = some number) :
    value.castTo .long false = .ok (.long number) := by
  cases value <;> cases holds <;> rfl

end Value

namespace Accumulator

open Value (integerSum present)

/-- The state after some values, if it takes in all of them. -/
def run (state : Accumulator) (sumType : DataType) (values : List Value) :
    Except Error Accumulator :=
  values.foldlM (fun state value => state.update value sumType) state

/-- The state of a sum of integers, whose total is missing before the first of them. -/
def summing (total : Option (BoundedInt 64)) : Accumulator := .sum (total.map .long)

/-- The total so far. -/
def soFar (total : Option (BoundedInt 64)) : ℤ := total.elim 0 BoundedInt.val

variable {value : Value} {number : BoundedInt 64}
  {total : Option (BoundedInt 64)} {values : List Value}

theorem soFar_inRange (total : Option (BoundedInt 64)) : InRange 64 (soFar total) := by
  cases total with
  | none => decide
  | some number => exact number.val_inRange

/-! ## One update -/

/-- The total after one more integer, which is an overflow where there is no room for it. -/
theorem addTo_long (total : Option (BoundedInt 64)) (number : BoundedInt 64) :
    addTo (total.map .long) (.long number)
      = (BoundedInt.ofInt? (soFar total + number.val)).elim (.error Arithmetic.add.overflow)
          fun next => .ok (.long next) := by
  cases total with
  | none =>
      rw [soFar, Option.elim_none, zero_add, BoundedInt.ofInt?_val]
      rfl
  | some current =>
      have gives : Arithmetic.add.Gives current.val number.val (current.val + number.val) :=
        .add current.val number.val
      exact (Arithmetic.integral_of_gives gives).trans (if_neg nofun)

/-- **An integer is added exactly or not at all.** -/
theorem update_summing (holds : value.integer? = some number) :
    (summing total).update value .long
      = (BoundedInt.ofInt? (soFar total + number.val)).elim (.error Arithmetic.add.overflow)
          fun next => .ok (summing (some next)) := by
  have given := Value.isNull_of_integer? holds
  simp only [update, summing, step, given, Bool.false_eq_true, if_false, addStep,
    Value.castTo_long holds, addTo_long]
  cases (BoundedInt.ofInt? (soFar total + number.val) : Option (BoundedInt 64)) <;> rfl

/-! ## Runs -/

/-- What a run over integers ends in. -/
inductive Ends (total : Option (BoundedInt 64)) (values : List Value) :
    Except Error Accumulator → Prop
  /-- All totals on the way are in range, and the last one is exact.  It is missing if there has
  been no integer at all. -/
  | exact {last : Option (BoundedInt 64)}
      (inRange : ∀ part, part <+: values → InRange 64 (soFar total + integerSum part))
      (sum : soFar last = soFar total + integerSum values)
      (missing : last = none ↔ total = none ∧ ∀ value ∈ values, value.isNull = true) :
      Ends total values (.ok (summing last))
  /-- Some total on the way is out of range. -/
  | overflow {part : List Value} (within : part <+: values)
      (outside : ¬ InRange 64 (soFar total + integerSum part)) :
      Ends total values (.error Arithmetic.add.overflow)

/-- A run ends in what it ends in after the first value, if the total goes on from there. -/
theorem Ends.cons {next : Option (BoundedInt 64)} {outcome : Except Error Accumulator}
    (ends : Ends next values outcome)
    (sum : ∀ part, soFar next + integerSum part = soFar total + integerSum (value :: part))
    (missing : next = none ↔ total = none ∧ value.isNull = true) :
    Ends total (value :: values) outcome := by
  cases ends with
  | exact inRange lastSum lastMissing =>
      refine .exact (fun part within => ?_) (lastSum.trans (sum values)) ?_
      · rcases List.prefix_cons_iff.mp within with rfl | ⟨later, rfl, inside⟩
        · exact (add_zero (soFar total)).symm ▸ soFar_inRange total
        · exact sum later ▸ inRange later inside
      · rw [lastMissing, missing, List.forall_mem_cons, and_assoc]
  | @overflow part within outside =>
      have longer : value :: part <+: value :: values := List.cons_prefix_cons.mpr ⟨rfl, within⟩
      exact .overflow longer (sum part ▸ outside)

/-- **A run over integers** ends in the exact total or in an overflow. -/
theorem ends_run (each : ∀ value ∈ values,
      value.isNull = true ∨ ∃ number, value.integer? = some number)
    (total : Option (BoundedInt 64)) : Ends total values (run (summing total) .long values) := by
  induction values generalizing total with
  | nil =>
      refine .exact (fun part within => ?_) (add_zero _).symm ?_
      · rw [List.prefix_nil.mp within]
        exact (add_zero (soFar total)).symm ▸ soFar_inRange total
      · exact (and_iff_left nofun).symm
  | cons value rest ih =>
      obtain ⟨here, later⟩ := List.forall_mem_cons.mp each
      rw [run, List.foldlM_cons]
      rcases here with missing | ⟨number, holds⟩
      · rw [update_of_isNull missing]
        refine (ih later total).cons (fun part => ?_) (and_iff_left missing).symm
        rw [Value.integerSum_of_isNull missing]
      · rw [update_summing holds]
        by_cases inRange : InRange 64 (soFar total + number.val)
        · rw [BoundedInt.ofInt?_of_inRange inRange]
          refine (ih later (some _)).cons (fun part => ?_) (iff_of_false nofun ?_)
          · rw [Value.integerSum_of_integer? holds, ← add_assoc]
            rfl
          · rw [Value.isNull_of_integer? holds]
            exact fun both => nomatch both.2
        · rw [BoundedInt.ofInt?_of_not_inRange inRange]
          have within : [value] <+: value :: rest :=
            List.cons_prefix_cons.mpr ⟨rfl, List.nil_prefix⟩
          refine .overflow within ?_
          rwa [Value.integerSum_of_integer? holds, Value.integerSum_nil, add_zero]

/-- **Sums of integers and counts are exact.**  A sum takes in integers if and only if the total of
every prefix is in range, and fails with an overflow otherwise.  Its result is the exact total, or
`NULL` if all values are.  A count takes in all values, and its result is the number of those that
are not `NULL`, as long as that number is representable. -/
theorem run_exact :
    (∀ values : List Value,
      (∀ value ∈ values, value.hasType .int = true ∨ value.hasType .long = true) →
        ((∃ state, run (start .sum) .long values = .ok state) ↔
          ∀ part, part <+: values → InRange 64 (integerSum part)) ∧
        (∀ error, run (start .sum) .long values = .error error →
          error = Arithmetic.add.overflow) ∧
        ∀ state, run (start .sum) .long values = .ok state →
          ∃ result, state.finish = .ok result ∧
            ((∀ value ∈ values, value.isNull = true) → result = .null) ∧
            ((∃ value ∈ values, value.isNull = false) →
              Value.IsInteger .long result (integerSum values))) ∧
    ∀ (sumType : DataType) (values : List Value),
      ∃ state, run (start .count) sumType values = .ok state ∧
        state.finish = .ok (.long (BoundedInt.wrap (present values).length)) ∧
        ((present values).length < twoPow 63 →
          (BoundedInt.wrap (present values).length : BoundedInt 64).val
            = (present values).length) := by
  constructor
  case left =>
    intro values typed
    have ends := ends_run (fun value member => Value.integer?_of_hasType (typed value member)) none
    generalize outcome : run (summing none) .long values = result at ends
    rw [show start .sum = summing none from rfl, outcome]
    cases ends with
    | @exact last inRange sum missing =>
        simp only [soFar, Option.elim_none, zero_add] at inRange sum
        refine ⟨iff_of_true ⟨_, rfl⟩ inRange, nofun, ?_⟩
        rintro _ ⟨⟩
        cases last with
        | none =>
            have allMissing := (missing.mp rfl).2
            refine ⟨.null, rfl, fun _ => rfl, ?_⟩
            rintro ⟨value, member, given⟩
            rw [allMissing value member] at given
            cases given
        | some number =>
            refine ⟨.long number, rfl, fun allMissing => ?_, fun _ => sum ▸ .long number⟩
            cases missing.mpr ⟨rfl, allMissing⟩
    | @overflow part within outside =>
        simp only [soFar, Option.elim_none, zero_add] at outside
        refine ⟨iff_of_false nofun fun all => outside (all part within), ?_, nofun⟩
        rintro _ ⟨⟩
        rfl
  case right =>
    intro sumType values
    refine ⟨count (0 + (present values).length), foldlM_update_count sumType values 0, ?_,
      BoundedInt.val_wrap_of_lt⟩
    rw [Nat.zero_add]
    rfl

/-- From the largest integer it is possible to go down and up again, and not the other way round;
and a count takes in values of different types. -/
theorem run_exact_of_largest :
    let largest : BoundedInt 64 := ⟨twoPow 63 - 1, by decide, by decide⟩
    let down : Value := .long ⟨-1, by decide, by decide⟩
    let up : Value := .int ⟨1, by decide, by decide⟩
    (∃ state, run (start .sum) .long [.long largest, down, .null, up] = .ok state ∧
      state.finish = .ok (.long largest)) ∧
    run (start .sum) .long [.long largest, up, down] = .error Arithmetic.add.overflow ∧
    ∃ state, run (start .count) .long [up, .null, .string "a"] = .ok state ∧
      state.finish = .ok (.long ⟨2, by decide, by decide⟩) := by
  intro largest down up
  have typed : ∀ value ∈ [.long largest, down, .null, up],
      value.hasType .int = true ∨ value.hasType .long = true := by
    decide
  have typedToo : ∀ value ∈ [.long largest, up, down],
      value.hasType .int = true ∨ value.hasType .long = true := by
    decide
  refine ⟨?_, ?_, ?_⟩
  · have taken : ∃ state, run (start .sum) .long [.long largest, down, .null, up] = .ok state :=
      ⟨summing (some largest), rfl⟩
    obtain ⟨state, isOk⟩ := taken
    obtain ⟨result, finished, -, total⟩ := (run_exact.1 _ typed).2.2 state isOk
    have sum : integerSum [.long largest, down, .null, up] = largest.val := by decide
    rw [sum] at total
    cases Value.isInteger_long.mp (total ⟨up, by simp, rfl⟩)
    exact ⟨state, isOk, finished⟩
  · have tooLarge : ¬ ∀ part, part <+: [.long largest, up, down] →
        InRange 64 (integerSum part) := by
      intro all
      exact absurd (all [.long largest, up] ⟨[down], rfl⟩) (by decide)
    obtain ⟨succeeds, fails, -⟩ := run_exact.1 _ typedToo
    cases outcome : run (start .sum) .long [.long largest, up, down] with
    | ok state => exact absurd (succeeds.mp ⟨state, outcome⟩) tooLarge
    | error error => rw [fails error outcome]
  · obtain ⟨state, isOk, finished, number⟩ := run_exact.2 .long [up, .null, .string "a"]
    have two : (present [up, .null, .string "a"]).length = 2 := rfl
    rw [two] at finished number
    have small : (BoundedInt.wrap (2 : ℕ) : BoundedInt 64) = ⟨2, by decide, by decide⟩ :=
      BoundedInt.ext_val (number (by decide))
    exact ⟨state, isOk, small ▸ finished⟩

end Accumulator

end ScalarSql
