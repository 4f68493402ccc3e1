import ScalarSql.Plan.Execution
import ScalarSql.Proofs.Expr.Typing

/-!
# Grouping respects types

The state of an aggregate holds a total or a selected value, and what it holds always has
the type in which the aggregate works.  `Accumulator.Fits` is this invariant of a state:
it holds at the start, every update keeps it, and from it the result has the type of the
aggregate column.

**Groups.**  `Group.Fits` lifts the invariant to the groups of a query: the key fits the
key columns and every state fits its aggregate.  Taking in one row keeps it, hence a whole
run of rows does, and the result rows fit the columns of the grouping.
-/

set_option autoImplicit false

namespace ScalarSql

/-! ## Accumulators -/

namespace AggregateFunction

/-- Values of an argument type can be cast to the type in which they are added up. -/
theorem castable_sumType {function : AggregateFunction} {argument output : DataType}
    (adds : function = .sum ∨ function = .avg)
    (result : function.outputType? argument = some output) :
    argument.castable (function.sumType output) = true := by
  rcases adds with rfl | rfl <;> cases argument <;> cases result <;> rfl

/-- Numbers of the type in which values are added up stay in that type. -/
theorem resultType_sumType {function : AggregateFunction} {argument output : DataType}
    (adds : function = .sum ∨ function = .avg) (op : Arithmetic)
    (result : function.outputType? argument = some output) :
    (Operator.arithmetic op).resultType (function.sumType output) (function.sumType output)
      = .ok (function.sumType output) := by
  rcases adds with rfl | rfl <;> cases argument <;> cases result <;> rfl

/-- An average has the type in which its values are added up. -/
theorem avg_sumType {argument output : DataType}
    (result : avg.outputType? argument = some output) : avg.sumType output = output := by
  cases argument <;> cases result <;> rfl

/-- A smallest or largest value has the type of the argument. -/
theorem outputType?_of_selects {function : AggregateFunction} {argument output : DataType}
    (selects : function = .min ∨ function = .max)
    (result : function.outputType? argument = some output) : argument = output := by
  rcases selects with rfl | rfl <;> cases argument <;> cases result <;> rfl

end AggregateFunction

namespace Accumulator

/-- A value that may be missing and otherwise has the type. -/
def HeldFits (type : DataType) (held : Option Value) : Prop :=
  ∀ value, held = some value → value.hasType type = true

theorem heldFits_none {type : DataType} : HeldFits type none := fun _ missing => nomatch missing

theorem heldFits_some {type : DataType} {value : Value} (typed : value.hasType type = true) :
    HeldFits type (some value) := by
  rintro _ ⟨⟩
  exact typed

/-- The invariant of the state of an aggregate whose column has the given type. -/
inductive Fits (output : DataType) : AggregateFunction → Accumulator → Prop
  | count (rows : Nat) : Fits output .count (.count rows)
  | sum {total : Option Value} (held : HeldFits (AggregateFunction.sum.sumType output) total) :
      Fits output .sum (.sum total)
  | avg {total : Option Value} (rows : Nat)
      (held : HeldFits (AggregateFunction.avg.sumType output) total) :
      Fits output .avg (.avg total rows)
  | min {least : Option Value} (held : HeldFits output least) : Fits output .min (.min least)
  | max {greatest : Option Value} (held : HeldFits output greatest) :
      Fits output .max (.max greatest)

/-- The invariant holds at the start. -/
theorem start_fits (output : DataType) (function : AggregateFunction) :
    Fits output function (start function) := by
  cases function with
  | count => exact .count 0
  | sum => exact .sum heldFits_none
  | avg => exact .avg 0 heldFits_none
  | min => exact .min heldFits_none
  | max => exact .max heldFits_none

theorem select_fits {type : DataType} (wanted : Ordering) {held : Option Value} {value : Value}
    (fits : HeldFits type held) (typed : value.hasType type = true) :
    HeldFits type (select wanted held value) := by
  cases held with
  | none => exact heldFits_some typed
  | some kept =>
      simp only [select]
      split
      · exact heldFits_some typed
      · exact fits

/-- A total stays in its type when a value of a castable type is added. -/
theorem addTo_sound {type argument : DataType} {total : Option Value} {value : Value}
    (closed : (Operator.arithmetic .add).resultType type type = .ok type)
    (castable : argument.castable type = true) (fits : HeldFits type total)
    (typed : value.hasType argument = true) :
    Sound (Value.hasType · type) (value.castTo type false >>= addTo total) := by
  refine (Value.castTo_sound false castable typed).bind fun addend addendTyped => ?_
  cases total with
  | none => exact addendTyped
  | some current => exact Operator.apply_sound _ closed (fits current rfl) addendTyped

/-- The state that a step leaves, unless it fails. -/
def Step.outcome : Step → Except Error Accumulator
  | ⟨_, some error⟩ => .error error
  | ⟨state, none⟩ => .ok state

theorem update_eq_outcome (state : Accumulator) (value : Value) (sumType : DataType) :
    state.update value sumType = (state.step value sumType).outcome := rfl

/-- An addition that succeeds leaves the state with the new total. -/
theorem addStep_outcome (keep : Accumulator) (next : Option Value → Accumulator)
    (failed : Accumulator) (total : Option Value) (value : Value) (sumType : DataType) :
    (addStep keep next failed total value sumType).outcome =
      (value.castTo sumType false >>= addTo total).map fun result => next (some result) := by
  simp only [addStep]
  cases value.castTo sumType false with
  | error _ => rfl
  | ok addend =>
      cases added : addTo total addend with
      | error _ => simp [bind, Except.bind, added, Except.map, Step.outcome]
      | ok _ => simp [bind, Except.bind, added, Except.map, Step.outcome]

/-- **Every update keeps the invariant** or fails because of the data. -/
theorem update_sound {function : AggregateFunction} {argument output : DataType}
    {state : Accumulator} {value : Value} (result : function.outputType? argument = some output)
    (fits : Fits output function state) (typed : value.hasType argument = true) :
    Sound (Fits output function) (state.update value (function.sumType output)) := by
  rw [update_eq_outcome]
  unfold step
  by_cases missing : value.isNull = true
  · simp only [missing, if_true]
    exact fits
  · simp only [missing, Bool.false_eq_true, if_false]
    cases fits with
    | count rows => exact .count (rows + 1)
    | sum held =>
        simp only [addStep_outcome]
        exact (addTo_sound (AggregateFunction.resultType_sumType (.inl rfl) .add result)
          (AggregateFunction.castable_sumType (.inl rfl) result) held typed).map
            fun total totalTyped => .sum (heldFits_some totalTyped)
    | avg rows held =>
        simp only [addStep_outcome]
        exact (addTo_sound (AggregateFunction.resultType_sumType (.inr rfl) .add result)
          (AggregateFunction.castable_sumType (.inr rfl) result) held typed).map
            fun total totalTyped => .avg (rows + 1) (heldFits_some totalTyped)
    | min held =>
        obtain rfl := AggregateFunction.outputType?_of_selects (.inl rfl) result
        exact .min (select_fits .lt held typed)
    | max held =>
        obtain rfl := AggregateFunction.outputType?_of_selects (.inr rfl) result
        exact .max (select_fits .gt held typed)

/-- The divisor of an average has the type of the total. -/
theorem divisor_hasType {argument output : DataType} {total : Value} (rows : Nat)
    (result : AggregateFunction.avg.outputType? argument = some output)
    (typed : total.hasType output = true) (present : total.isNull = false) :
    (divisor total rows).hasType output = true := by
  have numeric : output.isNumeric = true := by
    cases argument <;> cases result <;> rfl
  rcases Value.number_cases numeric typed present with
    ⟨rfl, number, rfl⟩ | ⟨rfl, number, rfl⟩ | ⟨rfl, number, rfl⟩ | ⟨rfl, number, rfl⟩
  · cases argument <;> cases result
  · cases argument <;> cases result
  · rfl
  · rfl

theorem getD_hasType {type : DataType} {held : Option Value} (fits : HeldFits type held) :
    (held.getD .null).hasType type = true := by
  cases held with
  | none => exact Value.hasType_null type
  | some value => exact fits value rfl

/-- The result of an aggregate has the type of its column. -/
theorem finish_sound {function : AggregateFunction} {argument output : DataType}
    {state : Accumulator} (result : function.outputType? argument = some output)
    (fits : Fits output function state) : Sound (Value.hasType · output) state.finish := by
  cases fits with
  | count rows =>
      cases argument <;> cases result <;> rfl
  | sum held => exact getD_hasType held
  | min held => exact getD_hasType held
  | max held => exact getD_hasType held
  | @avg total rows held =>
      cases total with
      | none => exact Value.hasType_null output
      | some total =>
          have typed := held total rfl
          rw [AggregateFunction.avg_sumType result] at typed
          have closed := AggregateFunction.resultType_sumType (.inr rfl) .div result
          rw [AggregateFunction.avg_sumType result] at closed
          simp only [finish]
          cases present : total.isNull with
          | true =>
              rw [Value.isNull_iff.mp present]
              exact Value.hasType_null output
          | false =>
              exact Operator.apply_sound _ closed typed (divisor_hasType rows result typed present)

end Accumulator

/-! ## Groups -/

/-- The column of an aggregate over rows of a schema: its expression is typed and the
function gives the type of the column for it. -/
def Aggregate.HasColumn (schema : Schema) (aggregate : Aggregate) (column : Column) : Prop :=
  aggregate.name = column.name ∧ ∃ argument, Expr.HasType schema aggregate.expr argument ∧
    aggregate.function.outputType? argument = some column.type

/-- An aggregate paired with the type of its column, whose expression can be evaluated. -/
def TypedAggregate.Fits (schema : Schema) (typed : TypedAggregate) : Prop :=
  typed.aggregate.expr.All Expr.Regular ∧
    ∃ argument, Expr.HasType schema typed.aggregate.expr argument ∧
      typed.aggregate.function.outputType? argument = some typed.output

namespace Group

/-- The states of the aggregates of one group. -/
def StatesFit (aggregates : List TypedAggregate) (states : List Accumulator) : Prop :=
  List.Forall₂ (fun state typed =>
    Accumulator.Fits typed.output typed.aggregate.function state) states aggregates

/-- The invariant of a group: the key fits the key columns and each state its aggregate. -/
structure Fits (keyColumns : List Column) (aggregates : List TypedAggregate)
    (group : Group) : Prop where
  key : Row.Fits keyColumns group.key
  states : StatesFit aggregates group.states

theorem fresh_fits {keyColumns : List Column} {aggregates : List TypedAggregate}
    {key : List Value} (fits : Row.Fits keyColumns key) :
    (fresh aggregates key).Fits keyColumns aggregates where
  key := fits
  states := by
    simp only [StatesFit, fresh, List.forall₂_map_left_iff, List.forall₂_same]
    exact fun typed _ => Accumulator.start_fits typed.output typed.aggregate.function

/-- Taking in a row keeps the states of a group fitting. -/
theorem takeRow_sound {context : RowContext} {aggregates : List TypedAggregate}
    {states : List Accumulator} (fitting : ∀ typed ∈ aggregates, typed.Fits context.schema)
    (row : Row.Fits context.schema.columns context.row) (fits : StatesFit aggregates states) :
    Sound (StatesFit aggregates) (takeRow context aggregates states) := by
  induction fits with
  | nil => exact .nil
  | @cons state typed states aggregates stateFits _ ih =>
      obtain ⟨⟨regular, argument, hasType, result⟩, others⟩ := List.forall_mem_cons.mp fitting
      have valueSound := hasType.evaluate_sound regular row
      simp only [takeRow]
      cases value : typed.aggregate.expr.evaluate context with
      | error error => rwa [value] at valueSound
      | ok value' =>
          rw [value] at valueSound
          have updated : Sound _ (state.update value' typed.sumType) :=
            Accumulator.update_sound result stateFits valueSound
          dsimp only
          cases next : state.update value' typed.sumType with
          | error error => rwa [next] at updated
          | ok next' =>
              rw [next] at updated
              exact (ih others).map fun states statesFit => .cons updated statesFit

section Rows

variable {schema : Schema} {policy : FailurePolicy} {keyColumns : List Column}
  {aggregates : List TypedAggregate} (fitting : ∀ typed ∈ aggregates, typed.Fits schema)

include fitting

/-- A row joins a group or opens one, and all groups keep fitting. -/
theorem insertRow_sound {row : Row} {index : Nat} {key : List Value} {groups : List Group}
    (rowFits : Row.Fits schema.columns row) (keyFits : Row.Fits keyColumns key)
    (fits : ∀ group ∈ groups, group.Fits keyColumns aggregates) :
    Sound (∀ group ∈ ·, group.Fits keyColumns aggregates)
      (insertRow { schema, policy, row, index } aggregates key groups) := by
  induction groups with
  | nil =>
      refine (takeRow_sound fitting rowFits (fresh_fits keyFits).states).map
        fun states statesFit => ?_
      exact List.forall_mem_singleton.mpr ⟨keyFits, statesFit⟩
  | cons group rest ih =>
      obtain ⟨groupFits, restFit⟩ := List.forall_mem_cons.mp fits
      simp only [insertRow]
      split
      · refine (takeRow_sound fitting rowFits groupFits.states).map fun states statesFit => ?_
        exact List.forall_mem_cons.mpr ⟨⟨groupFits.key, statesFit⟩, restFit⟩
      · exact (ih restFit).map fun groups groupsFit =>
          List.forall_mem_cons.mpr ⟨groupFits, groupsFit⟩

/-- **A run of rows keeps all groups fitting.** -/
theorem insertRows_sound {keys : List Expr} {rows : List Row} {index : Nat}
    {groups : List Group} (rowsFit : ∀ row ∈ rows, Row.Fits schema.columns row)
    (keysSound : ∀ row index, Row.Fits schema.columns row →
      Sound (Row.Fits keyColumns) (Expr.evaluateAll { schema, policy, row, index } keys))
    (fits : ∀ group ∈ groups, group.Fits keyColumns aggregates) :
    Sound (∀ group ∈ ·, group.Fits keyColumns aggregates)
      (insertRows schema policy keys aggregates groups index rows) := by
  induction rows generalizing index groups with
  | nil => exact fits
  | cons row rest ih =>
      obtain ⟨rowFits, restFit⟩ := List.forall_mem_cons.mp rowsFit
      have keySound := keysSound row index rowFits
      simp only [insertRows]
      cases key : Expr.evaluateAll { schema, policy, row, index } keys with
      | error error => rwa [key] at keySound
      | ok values =>
          rw [key] at keySound
          have inserted : Sound _ (insertRow { schema, policy, row, index } aggregates values
            groups) := insertRow_sound fitting rowFits keySound fits
          dsimp only
          cases next : insertRow { schema, policy, row, index } aggregates values groups with
          | error error => rwa [next] at inserted
          | ok groups' =>
              rw [next] at inserted
              exact ih restFit inserted

theorem finishAll_sound {states : List Accumulator} (fits : StatesFit aggregates states) :
    Sound (Row.Fits (aggregates.map TypedAggregate.column)) (finishAll states) := by
  induction fits with
  | nil => exact .nil
  | @cons state typed states aggregates stateFits _ ih =>
      obtain ⟨⟨_, argument, _, result⟩, others⟩ := List.forall_mem_cons.mp fitting
      have finished := Accumulator.finish_sound result stateFits
      simp only [finishAll]
      cases value : state.finish with
      | error error => rwa [value] at finished
      | ok value' =>
          rw [value] at finished
          exact (ih others).map fun values valuesFit => .cons finished valuesFit

/-- The result rows of groups fit the key columns and then the aggregate columns. -/
theorem finishRows_sound {groups : List Group}
    (fits : ∀ group ∈ groups, group.Fits keyColumns aggregates) :
    Sound (∀ row ∈ ·, Row.Fits (keyColumns ++ aggregates.map TypedAggregate.column) row)
      (finishRows groups) := by
  induction groups with
  | nil => exact fun _ member => nomatch member
  | cons group rest ih =>
      obtain ⟨groupFits, restFit⟩ := List.forall_mem_cons.mp fits
      have finished := finishAll_sound fitting groupFits.states
      simp only [finishRows]
      cases values : finishAll group.states with
      | error error => rwa [values] at finished
      | ok values' =>
          rw [values] at finished
          exact (ih restFit).map fun rows rowsFit =>
            List.forall_mem_cons.mpr ⟨List.rel_append groupFits.key finished, rowsFit⟩

end Rows

end Group

/-- **Grouping gives rows that fit its columns** or fails because of the data. -/
theorem groupRows_sound {schema : Schema} {policy : FailurePolicy} {keyColumns : List Column}
    {aggregates : List TypedAggregate} {keys : List Expr} {rows : List Row}
    (fitting : ∀ typed ∈ aggregates, typed.Fits schema)
    (rowsFit : ∀ row ∈ rows, Row.Fits schema.columns row)
    (keyless : keys = [] → keyColumns = [])
    (keysSound : ∀ row index, Row.Fits schema.columns row →
      Sound (Row.Fits keyColumns) (Expr.evaluateAll { schema, policy, row, index } keys)) :
    Sound (∀ row ∈ ·, Row.Fits (keyColumns ++ aggregates.map TypedAggregate.column) row)
      (groupRows schema policy keys aggregates rows) := by
  have inserted : Sound (∀ group ∈ ·, group.Fits keyColumns aggregates)
      (Group.insertRows schema policy keys aggregates [] 0 rows) :=
    Group.insertRows_sound fitting rowsFit keysSound fun _ member => nomatch member
  unfold groupRows
  cases groups : Group.insertRows schema policy keys aggregates [] 0 rows with
  | error error => rwa [groups] at inserted
  | ok groups' =>
      rw [groups] at inserted
      refine Group.finishRows_sound fitting ?_
      split
      · next empty =>
          simp only [Bool.and_eq_true, List.isEmpty_iff] at empty
          rw [keyless empty.2]
          exact List.forall_mem_singleton.mpr (Group.fresh_fits .nil)
      · exact inserted

end ScalarSql
