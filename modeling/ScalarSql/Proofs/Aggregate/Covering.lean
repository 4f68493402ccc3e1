import ScalarSql.Proofs.Aggregate.Grouping

/-!
# Groupings that compute the aggregates of others

A grouping fails if an aggregate cannot take in a value or has no result.  So if everything
that a second grouping of the same rows computes is among what the first one computes, the
second one fails only if the first one does, `groupRows_of_covers`.  Together with
`groupRows_matched`, two groupings that compute the same aggregates, in any order and any
number of times, end alike and have the same results.
-/

set_option autoImplicit false

namespace ScalarSql

/-- Every aggregate of the second list is computed by the first one. -/
def TypedAggregate.Covers (aggregates others : List TypedAggregate) : Prop :=
  ∀ second ∈ others, ∃ first ∈ aggregates, first.Alike second

namespace Group

open TypedAggregate (Matched Covers)

variable {context : RowContext} {aggregates leftAggregates rightAggregates : List TypedAggregate}

/-- A row can be taken in if every aggregate can take in its value. -/
theorem exists_takeRow {states : List Accumulator} (aligned : states.length = aggregates.length)
    (each : ∀ (i : Nat) (typed : TypedAggregate) (state : Accumulator),
      aggregates[i]? = some typed → states[i]? = some state →
        ∃ value updated, typed.aggregate.expr.evaluate context = .ok value ∧
          state.update value typed.sumType = .ok updated) :
    ∃ next, takeRow context aggregates states = .ok next := by
  induction aggregates generalizing states with
  | nil => exact ⟨[], rfl⟩
  | cons typed rest ih =>
      cases states with
      | nil => cases aligned
      | cons state states =>
          obtain ⟨value, updated, evaluated, result⟩ := each 0 typed state rfl rfl
          obtain ⟨others, othersTaken⟩ := ih (Nat.succ.inj aligned) fun i => each (i + 1)
          exact ⟨updated :: others, by simp only [takeRow, evaluated, result, othersTaken, map_ok]⟩

variable (covers : Covers leftAggregates rightAggregates)

include covers

/-- What is computed for an aggregate of the second list is computed for one of the first. -/
theorem exists_of_covers {α : Type} {left right : List α}
    (matched : Matched leftAggregates rightAggregates left right) {j : Nat}
    {second : TypedAggregate} {item : α} (atRight : rightAggregates[j]? = some second)
    (atItem : right[j]? = some item) :
    ∃ (i : Nat) (first : TypedAggregate), leftAggregates[i]? = some first ∧
      first.Alike second ∧ left[i]? = some item := by
  obtain ⟨first, member, alike⟩ := covers second (List.mem_of_getElem? atRight)
  obtain ⟨i, atLeft⟩ := List.mem_iff_getElem?.mp member
  refine ⟨i, first, atLeft, alike, ?_⟩
  rw [matched.same i j first second atLeft atRight alike, atItem]

theorem exists_takeRow_of_covers {left right next : List Accumulator}
    (matched : Matched leftAggregates rightAggregates left right)
    (taken : takeRow context leftAggregates left = .ok next) :
    ∃ others, takeRow context rightAggregates right = .ok others := by
  obtain ⟨-, each⟩ := takeRow_eq_ok matched.leftLength taken
  refine exists_takeRow matched.rightLength fun j second state atRight atState => ?_
  obtain ⟨i, first, atLeft, alike, leftState⟩ := exists_of_covers covers matched atRight atState
  obtain ⟨value, updated, evaluated, result, -⟩ := each i first state atLeft leftState
  exact ⟨value, updated, alike.argument context ▸ evaluated, alike.sumType ▸ result⟩

variable {size : Nat}

theorem exists_insertRow_of_covers {key : List Value} {left right next : List Group}
    (twins : List.Forall₂ (Twin size leftAggregates rightAggregates) left right)
    (inserted : insertRow context leftAggregates key left = .ok next) :
    ∃ others, insertRow context rightAggregates key right = .ok others := by
  induction twins generalizing next with
  | nil =>
      obtain ⟨_, taken, -⟩ := map_eq_ok.mp inserted
      obtain ⟨states, otherTaken⟩ := exists_takeRow_of_covers covers (fresh_matched key) taken
      exact ⟨[{ key, states }], by rw [insertRow, otherTaken, map_ok]⟩
  | @cons group other rest others twin _ ih =>
      simp only [insertRow, twin.key] at inserted ⊢
      split at inserted
      · next joins =>
          obtain ⟨_, taken, -⟩ := map_eq_ok.mp inserted
          obtain ⟨states, otherTaken⟩ := exists_takeRow_of_covers covers twin.states taken
          exact ⟨{ other with states } :: others, by rw [if_pos joins, otherTaken, map_ok]⟩
      · next passes =>
          obtain ⟨_, restInserted, -⟩ := map_eq_ok.mp inserted
          obtain ⟨later, otherInserted⟩ := ih restInserted
          exact ⟨other :: later, by rw [if_neg passes, otherInserted, map_ok]⟩

variable {schema : Schema} {policy : FailurePolicy} {keys : List Expr}

theorem exists_insertRows_of_covers {rows : List Row} {index : Nat} {left right next : List Group}
    (twins : List.Forall₂ (Twin keys.length leftAggregates rightAggregates) left right)
    (inserted : insertRows schema policy keys leftAggregates left index rows = .ok next) :
    ∃ others, insertRows schema policy keys rightAggregates right index rows = .ok others := by
  induction rows generalizing index left right with
  | nil => exact ⟨right, rfl⟩
  | cons row rest ih =>
      simp only [insertRows] at inserted ⊢
      split at inserted
      · cases inserted
      · next key evaluated =>
          split at inserted
          · cases inserted
          · next between first =>
              obtain ⟨others, second⟩ := exists_insertRow_of_covers covers twins first
              simp only [second]
              exact ih (insertRow_twins (Expr.length_of_evaluateAll evaluated) twins first second)
                inserted

omit covers in
theorem exists_finishAll {states : List Accumulator}
    (each : ∀ state ∈ states, ∃ value, state.finish = .ok value) :
    ∃ values, finishAll states = .ok values := by
  induction states with
  | nil => exact ⟨[], rfl⟩
  | cons state rest ih =>
      obtain ⟨⟨value, finished⟩, later⟩ := List.forall_mem_cons.mp each
      obtain ⟨values, restFinished⟩ := ih later
      exact ⟨value :: values, by simp only [finishAll, finished, restFinished, map_ok]⟩

theorem exists_finishRows_of_covers {left right : List Group} {leftRows : List Row}
    (twins : List.Forall₂ (Twin size leftAggregates rightAggregates) left right)
    (finished : finishRows left = .ok leftRows) :
    ∃ rightRows, finishRows right = .ok rightRows := by
  induction twins generalizing leftRows with
  | nil => exact ⟨[], rfl⟩
  | @cons group other rest others twin _ ih =>
      simp only [finishRows] at finished ⊢
      split at finished
      · cases finished
      · next values result =>
          have results := finishAll_eq_ok result
          have otherResult : ∃ otherValues, finishAll other.states = .ok otherValues := by
            refine exists_finishAll fun state member => ?_
            obtain ⟨j, atState⟩ := List.mem_iff_getElem?.mp member
            have bound : j < rightAggregates.length := by
              rw [← twin.states.rightLength]
              exact (List.getElem?_eq_some_iff.mp atState).1
            obtain ⟨i, _, -, -, leftState⟩ := exists_of_covers covers twin.states
              (List.getElem?_eq_getElem bound) atState
            obtain ⟨inStates, rfl⟩ := List.getElem?_eq_some_iff.mp leftState
            exact ⟨_, results.get inStates (results.length_eq ▸ inStates)⟩
          obtain ⟨otherValues, otherFinished⟩ := otherResult
          obtain ⟨_, restFinished, -⟩ := map_eq_ok.mp finished
          obtain ⟨otherRows, othersFinished⟩ := ih restFinished
          exact ⟨(other.key ++ otherValues) :: otherRows, by
            simp only [otherFinished, othersFinished, map_ok]⟩

end Group

/-- **A grouping that is covered by another one** of the same rows succeeds if that one
does. -/
theorem groupRows_of_covers {schema : Schema} {policy : FailurePolicy} {keys : List Expr}
    {leftAggregates rightAggregates : List TypedAggregate} {rows leftRows : List Row}
    (covers : TypedAggregate.Covers leftAggregates rightAggregates)
    (grouped : groupRows schema policy keys leftAggregates rows = .ok leftRows) :
    ∃ rightRows, groupRows schema policy keys rightAggregates rows = .ok rightRows := by
  unfold groupRows at grouped ⊢
  split at grouped
  · cases grouped
  · next leftGroups leftInserted =>
      obtain ⟨rightGroups, rightInserted⟩ :=
        Group.exists_insertRows_of_covers covers .nil leftInserted
      simp only [rightInserted]
      have inserted : List.Forall₂ (Group.Twin keys.length leftAggregates rightAggregates)
          leftGroups rightGroups :=
        Group.insertRows_twins (fun _ => rfl) .nil leftInserted rightInserted
      have sameGroups : leftGroups.isEmpty = rightGroups.isEmpty := by
        cases inserted <;> rfl
      rw [← sameGroups]
      have twins : List.Forall₂ (Group.Twin keys.length leftAggregates rightAggregates)
          (if (leftGroups.isEmpty && keys.isEmpty) = true then [.fresh leftAggregates []]
            else leftGroups)
          (if (leftGroups.isEmpty && keys.isEmpty) = true then [.fresh rightAggregates []]
            else rightGroups) := by
        split
        · next empty =>
            simp only [Bool.and_eq_true, List.isEmpty_iff] at empty
            rw [empty.2]
            exact .cons ⟨rfl, rfl, Group.fresh_matched []⟩ .nil
        · exact inserted
      exact Group.exists_finishRows_of_covers covers twins grouped

end ScalarSql
