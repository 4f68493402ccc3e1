import Mathlib.Data.List.Forall2
import ScalarSql.Aggregate.Grouping
import ScalarSql.Proofs.Computation
import ScalarSql.Proofs.Expr.Operands

/-!
# Grouping the same rows twice

Two groupings of the same rows by the same keys form the same groups in the same order,
whatever aggregates they compute.  An aggregate is computed on its own: where both
groupings have an aggregate of the same function and the same argument, it has the same
result in every group, `groupRows_matched`.

**States.**  `TypedAggregate.Matched` says of two lists, one along the aggregates of each
grouping, that they hold the same at aggregates that are alike.  It is the invariant of the
states of a group from row to row, and in the end it holds of the results.
-/

set_option autoImplicit false

namespace ScalarSql

namespace TypedAggregate

/-- Two aggregates of one function with one output type, whose arguments always have the
same value. -/
structure Alike (left right : TypedAggregate) : Prop where
  function : left.aggregate.function = right.aggregate.function
  output : left.output = right.output
  argument : ∀ context,
    left.aggregate.expr.evaluate context = right.aggregate.expr.evaluate context

theorem Alike.sumType {left right : TypedAggregate} (alike : left.Alike right) :
    left.sumType = right.sumType := by
  rw [TypedAggregate.sumType, TypedAggregate.sumType, alike.function, alike.output]

/-- Two lists along two lists of aggregates that hold the same at aggregates that are
alike. -/
structure Matched {α : Type} (leftAggregates rightAggregates : List TypedAggregate)
    (left right : List α) : Prop where
  leftLength : left.length = leftAggregates.length
  rightLength : right.length = rightAggregates.length
  same : ∀ (i j : Nat) (first second : TypedAggregate), leftAggregates[i]? = some first →
    rightAggregates[j]? = some second → first.Alike second → left[i]? = right[j]?

/-- What two matched lists hold at aggregates that are alike. -/
theorem Matched.get {α : Type} {leftAggregates rightAggregates : List TypedAggregate}
    {left right : List α} (matched : Matched leftAggregates rightAggregates left right)
    {i j : Nat} {first second : TypedAggregate} (atLeft : leftAggregates[i]? = some first)
    (atRight : rightAggregates[j]? = some second) (alike : first.Alike second) :
    ∃ item, left[i]? = some item ∧ right[j]? = some item := by
  have bound : i < left.length := by
    rw [matched.leftLength]
    exact (List.getElem?_eq_some_iff.mp atLeft).1
  have here := List.getElem?_eq_getElem bound
  exact ⟨left[i], here, by rw [← matched.same i j first second atLeft atRight alike, here]⟩

end TypedAggregate

namespace Group

open TypedAggregate (Matched)

variable {context : RowContext} {aggregates leftAggregates rightAggregates : List TypedAggregate}

/-! ## One row -/

/-- Taking in a row updates every state with the value of its aggregate. -/
theorem takeRow_eq_ok {states next : List Accumulator}
    (aligned : states.length = aggregates.length)
    (taken : takeRow context aggregates states = .ok next) :
    next.length = aggregates.length ∧
      ∀ (i : Nat) (typed : TypedAggregate) (state : Accumulator),
        aggregates[i]? = some typed → states[i]? = some state →
          ∃ value updated, typed.aggregate.expr.evaluate context = .ok value ∧
            state.update value typed.sumType = .ok updated ∧ next[i]? = some updated := by
  induction aggregates generalizing states next with
  | nil =>
      simp only [takeRow] at taken
      cases taken
      exact ⟨rfl, fun _ _ _ missing _ => nomatch missing⟩
  | cons typed rest ih =>
      cases states with
      | nil => cases aligned
      | cons state states =>
          simp only [takeRow] at taken
          split at taken
          · cases taken
          · next value evaluated =>
              split at taken
              · cases taken
              · next updated result =>
                  obtain ⟨others, othersTaken, rfl⟩ := map_eq_ok.mp taken
                  obtain ⟨length, each⟩ := ih (Nat.succ.inj aligned) othersTaken
                  refine ⟨congrArg (· + 1) length, fun i => ?_⟩
                  cases i with
                  | zero =>
                      rintro _ _ ⟨⟩ ⟨⟩
                      exact ⟨value, updated, evaluated, result, rfl⟩
                  | succ i => exact each i

theorem fresh_matched (key : List Value) :
    Matched leftAggregates rightAggregates (fresh leftAggregates key).states
      (fresh rightAggregates key).states where
  leftLength := List.length_map _
  rightLength := List.length_map _
  same i j first second atLeft atRight alike := by
    simp only [fresh, List.getElem?_map, atLeft, atRight, Option.map_some, alike.function]

/-- **A row keeps states matched.** -/
theorem takeRow_matched {left right nextLeft nextRight : List Accumulator}
    (matched : Matched leftAggregates rightAggregates left right)
    (leftTaken : takeRow context leftAggregates left = .ok nextLeft)
    (rightTaken : takeRow context rightAggregates right = .ok nextRight) :
    Matched leftAggregates rightAggregates nextLeft nextRight := by
  obtain ⟨leftLength, leftEach⟩ := takeRow_eq_ok matched.leftLength leftTaken
  obtain ⟨rightLength, rightEach⟩ := takeRow_eq_ok matched.rightLength rightTaken
  refine ⟨leftLength, rightLength, fun i j first second atLeft atRight alike => ?_⟩
  obtain ⟨state, leftState, rightState⟩ := matched.get atLeft atRight alike
  obtain ⟨value, updated, evaluated, result, atNext⟩ := leftEach i first state atLeft leftState
  obtain ⟨_, _, otherEvaluated, otherResult, otherNext⟩ :=
    rightEach j second state atRight rightState
  rw [← alike.argument, evaluated] at otherEvaluated
  cases otherEvaluated
  rw [← alike.sumType, result] at otherResult
  cases otherResult
  rw [atNext, otherNext]

/-! ## All rows -/

/-- Two groups of one key, with matched states. -/
structure Twin (size : Nat) (leftAggregates rightAggregates : List TypedAggregate)
    (left right : Group) : Prop where
  key : left.key = right.key
  length : left.key.length = size
  states : Matched leftAggregates rightAggregates left.states right.states

variable {size : Nat}

/-- A row joins the same group in both groupings or opens one in both. -/
theorem insertRow_twins {key : List Value} (length : key.length = size)
    {left right nextLeft nextRight : List Group}
    (twins : List.Forall₂ (Twin size leftAggregates rightAggregates) left right)
    (leftInserted : insertRow context leftAggregates key left = .ok nextLeft)
    (rightInserted : insertRow context rightAggregates key right = .ok nextRight) :
    List.Forall₂ (Twin size leftAggregates rightAggregates) nextLeft nextRight := by
  -- Twin groups have one key, so that both sides pass the same groups before they insert.
  induction twins generalizing nextLeft nextRight with
  | nil =>
      obtain ⟨_, leftTaken, rfl⟩ := map_eq_ok.mp leftInserted
      obtain ⟨_, rightTaken, rfl⟩ := map_eq_ok.mp rightInserted
      exact .cons ⟨rfl, length, takeRow_matched (fresh_matched key) leftTaken rightTaken⟩ .nil
  | @cons group other rest others twin later ih =>
      simp only [insertRow, twin.key] at leftInserted
      simp only [insertRow] at rightInserted
      split at leftInserted
      · next joins =>
          rw [if_pos joins] at rightInserted
          obtain ⟨_, leftTaken, rfl⟩ := map_eq_ok.mp leftInserted
          obtain ⟨_, rightTaken, rfl⟩ := map_eq_ok.mp rightInserted
          exact .cons ⟨rfl, twin.key ▸ twin.length,
            takeRow_matched twin.states leftTaken rightTaken⟩ later
      · next passes =>
          rw [if_neg passes] at rightInserted
          obtain ⟨_, leftRest, rfl⟩ := map_eq_ok.mp leftInserted
          obtain ⟨_, rightRest, rfl⟩ := map_eq_ok.mp rightInserted
          exact .cons twin (ih leftRest rightRest)

variable {schema : Schema} {policy : FailurePolicy} {leftKeys rightKeys : List Expr}
  (keys : ∀ context, Expr.evaluateAll context leftKeys = Expr.evaluateAll context rightKeys)

include keys

/-- **All rows form the same groups** in both groupings. -/
theorem insertRows_twins {rows : List Row} {index : Nat}
    {left right nextLeft nextRight : List Group}
    (twins : List.Forall₂ (Twin leftKeys.length leftAggregates rightAggregates) left right)
    (leftInserted :
      insertRows schema policy leftKeys leftAggregates left index rows = .ok nextLeft)
    (rightInserted :
      insertRows schema policy rightKeys rightAggregates right index rows = .ok nextRight) :
    List.Forall₂ (Twin leftKeys.length leftAggregates rightAggregates) nextLeft nextRight := by
  induction rows generalizing index left right with
  | nil =>
      cases leftInserted
      cases rightInserted
      exact twins
  | cons row rest ih =>
      simp only [insertRows, ← keys] at rightInserted
      simp only [insertRows] at leftInserted
      split at leftInserted
      · cases leftInserted
      · next key evaluated =>
          simp only [evaluated] at rightInserted
          split at leftInserted
          · cases leftInserted
          · next leftNext leftResult =>
              split at rightInserted
              · cases rightInserted
              · next rightNext rightResult =>
                  exact ih (insertRow_twins (Expr.length_of_evaluateAll evaluated) twins leftResult
                    rightResult) leftInserted rightInserted

end Group

/-! ## Result rows -/

/-- Two result rows of one group: the same key values, and then the results of aggregates,
which are matched. -/
def Row.Matched (size : Nat) (leftAggregates rightAggregates : List TypedAggregate)
    (left right : Row) : Prop :=
  ∃ key leftValues rightValues, left = key ++ leftValues ∧ right = key ++ rightValues ∧
    key.length = size ∧
      TypedAggregate.Matched leftAggregates rightAggregates leftValues rightValues

namespace Group

variable {leftAggregates rightAggregates : List TypedAggregate} {size : Nat}

theorem finishAll_eq_ok {states : List Accumulator} {values : List Value}
    (finished : finishAll states = .ok values) :
    List.Forall₂ (fun state value => state.finish = .ok value) states values := by
  induction states generalizing values with
  | nil =>
      cases finished
      exact .nil
  | cons state rest ih =>
      simp only [finishAll] at finished
      split at finished
      · cases finished
      · next value result =>
          obtain ⟨others, othersFinished, rfl⟩ := map_eq_ok.mp finished
          exact .cons result (ih othersFinished)

/-- Matched states have matched results. -/
theorem finishAll_matched {left right : List Accumulator} {leftValues rightValues : List Value}
    (matched : TypedAggregate.Matched leftAggregates rightAggregates left right)
    (leftFinished : finishAll left = .ok leftValues)
    (rightFinished : finishAll right = .ok rightValues) :
    TypedAggregate.Matched leftAggregates rightAggregates leftValues rightValues := by
  have lefts := finishAll_eq_ok leftFinished
  have rights := finishAll_eq_ok rightFinished
  have results : ∀ {states : List Accumulator} {values : List Value} {i : Nat}
      {state : Accumulator}, List.Forall₂ (fun state value => state.finish = .ok value)
        states values → states[i]? = some state →
          ∃ value, state.finish = .ok value ∧ values[i]? = some value := by
    intro states values i state each atState
    obtain ⟨bound, rfl⟩ := List.getElem?_eq_some_iff.mp atState
    have inValues := each.length_eq ▸ bound
    exact ⟨values[i], each.get bound inValues, List.getElem?_eq_getElem inValues⟩
  refine ⟨lefts.length_eq.symm.trans matched.leftLength,
    rights.length_eq.symm.trans matched.rightLength,
    fun i j first second atLeft atRight alike => ?_⟩
  obtain ⟨state, leftState, rightState⟩ := matched.get atLeft atRight alike
  obtain ⟨value, finished, atValue⟩ := results lefts leftState
  obtain ⟨other, otherFinished, atOther⟩ := results rights rightState
  rw [finished] at otherFinished
  cases otherFinished
  rw [atValue, atOther]

theorem finishRows_matched {left right : List Group} {leftRows rightRows : List Row}
    (twins : List.Forall₂ (Twin size leftAggregates rightAggregates) left right)
    (leftFinished : finishRows left = .ok leftRows)
    (rightFinished : finishRows right = .ok rightRows) :
    List.Forall₂ (Row.Matched size leftAggregates rightAggregates) leftRows rightRows := by
  induction twins generalizing leftRows rightRows with
  | nil =>
      cases leftFinished
      cases rightFinished
      exact .nil
  | @cons group other rest others twin _ ih =>
      simp only [finishRows] at leftFinished rightFinished
      split at leftFinished
      · cases leftFinished
      · next leftValues leftResult =>
          split at rightFinished
          · cases rightFinished
          · next rightValues rightResult =>
              obtain ⟨_, leftRest, rfl⟩ := map_eq_ok.mp leftFinished
              obtain ⟨_, rightRest, rfl⟩ := map_eq_ok.mp rightFinished
              refine .cons ⟨group.key, leftValues, rightValues, rfl, ?_, twin.length,
                finishAll_matched twin.states leftResult rightResult⟩ (ih leftRest rightRest)
              rw [twin.key]

end Group

/-- **Grouping the same rows twice** by the same keys gives rows that are matched one by
one. -/
theorem groupRows_matched {schema : Schema} {policy : FailurePolicy}
    {leftKeys rightKeys : List Expr} {leftAggregates rightAggregates : List TypedAggregate}
    {rows leftRows rightRows : List Row} (length : leftKeys.length = rightKeys.length)
    (keys : ∀ context, Expr.evaluateAll context leftKeys = Expr.evaluateAll context rightKeys)
    (leftGrouped : groupRows schema policy leftKeys leftAggregates rows = .ok leftRows)
    (rightGrouped : groupRows schema policy rightKeys rightAggregates rows = .ok rightRows) :
    List.Forall₂ (Row.Matched leftKeys.length leftAggregates rightAggregates)
      leftRows rightRows := by
  unfold groupRows at leftGrouped rightGrouped
  split at leftGrouped
  · cases leftGrouped
  · next leftGroups leftInserted =>
      split at rightGrouped
      · cases rightGrouped
      · next rightGroups rightInserted =>
          have twins := Group.insertRows_twins keys .nil leftInserted rightInserted
          refine Group.finishRows_matched ?_ leftGrouped rightGrouped
          have sameGroups : leftGroups.isEmpty = rightGroups.isEmpty := by
            cases twins <;> rfl
          have sameKeys : leftKeys.isEmpty = rightKeys.isEmpty := by
            rw [Bool.eq_iff_iff, List.isEmpty_iff_length_eq_zero, List.isEmpty_iff_length_eq_zero,
              length]
          rw [← sameGroups, ← sameKeys]
          split
          · next empty =>
              simp only [Bool.and_eq_true, List.isEmpty_iff] at empty
              rw [empty.2]
              exact .cons ⟨rfl, rfl, Group.fresh_matched []⟩ .nil
          · exact twins

end ScalarSql
