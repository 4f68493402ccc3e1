import Mathlib.Data.List.Pairwise
import Mathlib.Data.Nat.SuccPred
import ScalarSql.Proofs.Aggregate.Groups
import ScalarSql.Proofs.Number.BoundedInt

/-!
# What a count counts

Grouping divides its rows among groups: every row joins one group, and the aggregates of a group
are those of exactly the rows that joined it.  This holds of any keys, `groupRows_divides`; that
these rows are all rows of one key is more, and only holds of keys without doubles.

**Counts.**  The result of a count is the number of rows that joined the group and whose argument
is not `NULL`, `TypedAggregate.counts_of_hasResult`.  Equal values are counted as often as they
come, so that the result is the number of different values exactly when no value comes twice.
-/

set_option autoImplicit false

namespace ScalarSql

/-! ## Dividing rows among groups -/

namespace Group

variable {schema : Schema} {policy : FailurePolicy} {keys : List Expr}
  {aggregates : List TypedAggregate}

/-- The group has a value for each key, every member came with a key that is the one of the group
or the same as it, and the accumulators have taken in exactly the members. -/
structure Gathers (schema : Schema) (policy : FailurePolicy) (size : Nat)
    (aggregates : List TypedAggregate) (members : List KeyedRow) (group : Group) : Prop where
  length : group.key.length = size
  keys : ∀ member ∈ members, group.key = member.key ∨ sameKeys group.key member.key = true
  states : List.Forall₂ (TypedAggregate.Reaches schema policy members) aggregates group.states

variable {size : Nat}

theorem gathers_fresh (key : List Value) :
    Gathers schema policy key.length aggregates [] (fresh aggregates key) :=
  ⟨rfl, nofun, reaches_fresh key⟩

/-- A member more. -/
theorem Gathers.takes {members : List KeyedRow} {group : Group} {row : KeyedRow}
    {states : List Accumulator} (gathers : Gathers schema policy size aggregates members group)
    (joins : group.key = row.key ∨ sameKeys group.key row.key = true)
    (taken : takeRow (row.context schema policy) aggregates group.states = .ok states) :
    Gathers schema policy size aggregates (members ++ [row]) { group with states } := by
  refine ⟨gathers.length, ?_, reaches_of_takeRow gathers.states taken⟩
  exact List.forall_mem_append.mpr ⟨gathers.keys, List.forall_mem_singleton.mpr joins⟩

/-- **One more row** joins one group, which may be a new one. -/
theorem gathers_of_insertRow {members : List (List KeyedRow)} {groups next : List Group}
    {row : KeyedRow} (length : row.key.length = size)
    (gathered : List.Forall₂ (Gathers schema policy size aggregates) members groups)
    (inserted : insertRow (row.context schema policy) aggregates row.key groups = .ok next) :
    ∃ extended, List.Forall₂ (Gathers schema policy size aggregates) extended next ∧
      extended.flatten.Perm (members.flatten ++ [row]) := by
  induction gathered generalizing next with
  | nil =>
      obtain ⟨states, taken, rfl⟩ := map_eq_ok.mp inserted
      have opened : Gathers schema policy size aggregates [row] ⟨row.key, states⟩ :=
        length ▸ (gathers_fresh row.key).takes (.inl rfl) taken
      exact ⟨[[row]], .cons opened .nil, .refl _⟩
  | @cons members group others groups here later ih =>
      rw [insertRow] at inserted
      split at inserted
      · next same =>
          obtain ⟨states, taken, rfl⟩ := map_eq_ok.mp inserted
          refine ⟨(members ++ [row]) :: others, .cons (here.takes (.inr same) taken) later, ?_⟩
          rw [List.flatten_cons, List.flatten_cons, List.append_assoc, List.append_assoc]
          exact .append_left members List.perm_append_comm
      · obtain ⟨rest, restInserted, rfl⟩ := map_eq_ok.mp inserted
        obtain ⟨extended, related, divided⟩ := ih restInserted
        refine ⟨members :: extended, .cons here related, ?_⟩
        rw [List.flatten_cons, List.flatten_cons, List.append_assoc]
        exact .append_left members divided

/-- **All rows** join groups. -/
theorem gathers_of_insertRows {members : List (List KeyedRow)} {groups result : List Group}
    {index : Nat} {rows : List Row}
    (gathered : List.Forall₂ (Gathers schema policy keys.length aggregates) members groups)
    (inserted : insertRows schema policy keys aggregates groups index rows = .ok result) :
    ∃ keyed extended, List.Forall₂ (KeyedRow.Reads schema policy keys) (rows.zipIdx index) keyed ∧
      List.Forall₂ (Gathers schema policy keys.length aggregates) extended result ∧
      extended.flatten.Perm (members.flatten ++ keyed) := by
  induction rows generalizing members groups index with
  | nil =>
      cases inserted
      exact ⟨[], members, .nil, gathered, by rw [List.append_nil]⟩
  | cons row rest ih =>
      simp only [insertRows] at inserted
      split at inserted
      · cases inserted
      · next key evaluated =>
          split at inserted
          · cases inserted
          · next between rowInserted =>
              let first : KeyedRow := ⟨index, row, key⟩
              have reads : first.Reads schema policy keys (row, index) := ⟨rfl, rfl, evaluated⟩
              have joined : insertRow (first.context schema policy) aggregates first.key groups
                  = .ok between := rowInserted
              obtain ⟨stepped, related, divided⟩ := gathers_of_insertRow
                (Expr.length_of_evaluateAll reads.key) gathered joined
              obtain ⟨keyed, extended, allRead, allRelated, allDivided⟩ := ih related inserted
              refine ⟨first :: keyed, extended, .cons reads allRead, allRelated, ?_⟩
              have together := allDivided.trans (divided.append_right keyed)
              rwa [List.append_assoc] at together

/-- The row holds a key that is the one of each member or the same as it, and the results of the
aggregates over the members. -/
def Totals (schema : Schema) (policy : FailurePolicy) (size : Nat)
    (aggregates : List TypedAggregate) (members : List KeyedRow) (row : Row) : Prop :=
  ∃ key results, row = key ++ results ∧ key.length = size ∧
    (∀ member ∈ members, key = member.key ∨ sameKeys key member.key = true) ∧
    List.Forall₂ (TypedAggregate.HasResult schema policy members) aggregates results

/-- The values in front of the results are the key of every member. -/
theorem Totals.key {members : List KeyedRow} {row : Row}
    (totals : Totals schema policy size aggregates members row) :
    ∀ member ∈ members,
      row.take size = member.key ∨ sameKeys (row.take size) member.key = true := by
  obtain ⟨key, results, rfl, rfl, keys, -⟩ := totals
  rwa [List.take_left]

/-- The value in the column of an aggregate is its result. -/
theorem Totals.hasResult {members : List KeyedRow} {row : Row}
    (totals : Totals schema policy size aggregates members row) {index : Nat}
    {typed : TypedAggregate} (atIndex : aggregates[index]? = some typed) :
    ∃ result, row[size + index]? = some result ∧
      typed.HasResult schema policy members result := by
  obtain ⟨key, results, rfl, rfl, -, related⟩ := totals
  obtain ⟨bound, rfl⟩ := List.getElem?_eq_some_iff.mp atIndex
  have inResults : index < results.length := related.length_eq ▸ bound
  refine ⟨results[index], ?_, related.get bound inResults⟩
  rw [List.getElem?_append_right (Nat.le_add_right _ _), Nat.add_sub_cancel_left,
    List.getElem?_eq_getElem inResults]

theorem totals_of_finishRows {members : List (List KeyedRow)} {groups : List Group}
    {output : List Row}
    (gathered : List.Forall₂ (Gathers schema policy size aggregates) members groups)
    (finished : finishRows groups = .ok output) :
    List.Forall₂ (Totals schema policy size aggregates) members output := by
  have results := finishRows_eq_ok finished
  clear finished
  induction gathered generalizing output with
  | nil =>
      cases results
      exact .nil
  | cons here _ ih =>
      cases results with
      | cons result later =>
          obtain ⟨values, rfl, states⟩ := result
          have total := hasResults_of_finish here.states states
          exact .cons ⟨_, values, rfl, here.length, here.keys, total⟩ (ih later)

end Group

/-- **Grouping divides its rows.**  Every row of the input is a member of one group, and every
row of the result holds the key of one group and the aggregates over its members. -/
theorem groupRows_divides {schema : Schema} {policy : FailurePolicy} {keys : List Expr}
    {aggregates : List TypedAggregate} {rows output : List Row}
    (grouped : groupRows schema policy keys aggregates rows = .ok output) :
    ∃ keyed members, List.Forall₂ (KeyedRow.Reads schema policy keys) rows.zipIdx keyed ∧
      members.flatten.Perm keyed ∧
      List.Forall₂ (Group.Totals schema policy keys.length aggregates) members output := by
  unfold groupRows at grouped
  split at grouped
  · cases grouped
  · next groups inserted =>
      obtain ⟨keyed, members, read, gathered, divided⟩ :=
        Group.gathers_of_insertRows .nil inserted
      split at grouped
      · next alone =>
          simp only [Bool.and_eq_true, List.isEmpty_iff] at alone
          obtain ⟨rfl, rfl⟩ := alone
          cases gathered
          have fresh : Group.Gathers schema policy 0 aggregates [] (.fresh aggregates []) :=
            Group.gathers_fresh []
          exact ⟨keyed, [[]], read, divided, Group.totals_of_finishRows (.cons fresh .nil) grouped⟩
      · exact ⟨keyed, members, read, divided, Group.totals_of_finishRows gathered grouped⟩

/-! ## Counts -/

namespace Value

/-- The values that are not `NULL`. -/
def present (values : List Value) : List Value := values.filter fun value => !value.isNull

/-- The different values among some: those that are not the same as a later one. -/
def different (values : List Value) : List Value :=
  values.pwFilter fun left right => same left right = false

/-- There are as many different values as values exactly when no two are the same. -/
theorem length_different_eq_iff {values : List Value} :
    (different values).length = values.length ↔
      values.Pairwise fun left right => same left right = false := by
  constructor
  · intro all
    exact List.pwFilter_eq_self.mp ((List.pwFilter_sublist values).eq_of_length all)
  · intro apart
    exact congrArg List.length (List.pwFilter_eq_self.mpr apart)

theorem length_different_le (values : List Value) :
    (different values).length ≤ values.length :=
  (List.pwFilter_sublist values).length_le

end Value

namespace Accumulator

theorem update_of_isNull {state : Accumulator} {sumType : DataType} {value : Value}
    (missing : value.isNull = true) : state.update value sumType = .ok state := by
  simp only [update, step, missing, if_true]

/-- Accumulators whose steps do not fail take in all values but `NULL`. -/
theorem foldlM_update {α : Type} {sumType : DataType} {keeping : α → Accumulator}
    {next : α → Value → α}
    (steps : ∀ current value, value.isNull = false →
      (keeping current).step value sumType = ⟨keeping (next current value), none⟩)
    (current : α) (values : List Value) :
    values.foldlM (fun state value => update state value sumType) (keeping current)
      = .ok (keeping ((Value.present values).foldl next current)) := by
  induction values generalizing current with
  | nil => rfl
  | cons value rest ih =>
      rw [List.foldlM_cons]
      cases missing : value.isNull with
      | true =>
          rw [update_of_isNull missing, Value.present,
            List.filter_cons_of_neg (by rw [missing]; decide)]
          exact ih current
      | false =>
          have taken : (keeping current).update value sumType
              = .ok (keeping (next current value)) := by
            rw [update, steps current value missing]
          rw [taken, Value.present, List.filter_cons_of_pos (by rw [missing]; rfl)]
          exact ih (next current value)

/-- **A count goes up** with every value that is not `NULL`, and takes in all of them. -/
theorem foldlM_update_count (sumType : DataType) (values : List Value) (rows : Nat) :
    values.foldlM (fun state value => update state value sumType) (count rows)
      = .ok (count (rows + (Value.present values).length)) := by
  have steps : ∀ (rows : Nat) (value : Value), value.isNull = false →
      (count rows).step value sumType = ⟨count (rows + 1), none⟩ := by
    intro rows value given
    simp only [step, given, Bool.false_eq_true, if_false]
  rw [foldlM_update steps, List.foldl_const]
  exact congrArg (Except.ok ∘ count) (Nat.succ_iterate rows _)

end Accumulator

/-- The result is the number of rows where the expression is not `NULL`.  This is the number of
different values that the expression has there exactly when it never has the same one twice. -/
def Counts (schema : Schema) (policy : FailurePolicy) (argument : Expr)
    (members : List KeyedRow) (result : Value) : Prop :=
  ∃ values,
    List.Forall₂ (fun row value => argument.evaluate (row.context schema policy) = .ok value)
      members values ∧
    result = .long (BoundedInt.wrap (Value.present values).length) ∧
    (values.length < twoPow 63 →
      (result = .long (BoundedInt.wrap (Value.different (Value.present values)).length) ↔
        (Value.present values).Pairwise fun left right => Value.same left right = false))

/-- **The result of a count** over some rows. -/
theorem TypedAggregate.counts_of_hasResult {schema : Schema} {policy : FailurePolicy}
    {typed : TypedAggregate} {members : List KeyedRow} {result : Value}
    (isCount : typed.aggregate.function = .count)
    (computed : typed.HasResult schema policy members result) :
    Counts schema policy typed.aggregate.expr members result := by
  obtain ⟨state, ⟨values, arguments, run⟩, finished⟩ := computed
  rw [isCount] at run
  have total := (Accumulator.foldlM_update_count typed.sumType values 0).symm.trans run
  cases Except.ok.inj total
  rw [Nat.zero_add] at finished
  have number := (Except.ok.inj finished).symm
  refine ⟨values, arguments, number, fun small => ?_⟩
  have fewer : (Value.present values).length ≤ values.length := List.length_filter_le _ _
  have smaller := Value.length_different_le (Value.present values)
  rw [number, ← Value.length_different_eq_iff]
  constructor
  · intro same
    have sameVal := congrArg BoundedInt.val (Value.long.inj same)
    rw [BoundedInt.val_wrap_of_lt (by omega), BoundedInt.val_wrap_of_lt (by omega)] at sameVal
    omega
  · intro same
    rw [same]

end ScalarSql
