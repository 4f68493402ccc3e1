import ScalarSql.Plan.OfQuery
import ScalarSql.Proofs.Computation
import ScalarSql.Proofs.Expr.Induction

/-!
# Taking aggregate calls out of expressions

`Expr.collectAggregates` does two things at once: it puts a column in the place of every
aggregate call and it lists the calls.  Here each of them is a function of its own,
`Expr.withoutAggregates` and `Expr.aggregateCalls`, and a computation that succeeds is
shown to do just that.

**Sharing.**  Calls of one spelling share a column, so that the list of aggregates is the
list of calls without repetitions, `addAggregates`.  The first aggregate of a name is the
first call of that name.
-/

set_option autoImplicit false

namespace ScalarSql

namespace Expr

/-! ## The two halves -/

/-- The aggregate that a call of an aggregate function asks for. -/
def aggregateCall (function : AggregateFunction) (arguments : List Expr) : Aggregate where
  function
  expr := (aggregateArgument function arguments).toOption.getD default
  name := (Expr.call function.text arguments).text

mutual

/-- The expression with columns in place of its aggregate calls. -/
def withoutAggregates : Expr → Expr
  | .column name => .column name
  | .literal value => .literal value
  | .binary op left right => .binary op left.withoutAggregates right.withoutAggregates
  | .not operand => .not operand.withoutAggregates
  | .negate operand => .negate operand.withoutAggregates
  | .isNull operand => .isNull operand.withoutAggregates
  | .isNotNull operand => .isNotNull operand.withoutAggregates
  | .cast operand target checked => .cast operand.withoutAggregates target checked
  | .call name arguments =>
      match AggregateFunction.ofName? name with
      | some function => .column (aggregateCall function arguments).name
      | none => .call name (withoutAllAggregates arguments)
  | .invocation function arguments => .invocation function (withoutAllAggregates arguments)
  | .field base name => .field base.withoutAggregates name

/-- Several expressions with columns in place of their aggregate calls. -/
def withoutAllAggregates : List Expr → List Expr
  | [] => []
  | first :: rest => first.withoutAggregates :: withoutAllAggregates rest

end

mutual

/-- The aggregate calls in an expression, in the order in which they are written. -/
def aggregateCalls : Expr → List Aggregate
  | .column _ | .literal _ => []
  | .binary _ left right => left.aggregateCalls ++ right.aggregateCalls
  | .not operand | .negate operand | .isNull operand | .isNotNull operand
  | .cast operand _ _ | .field operand _ => operand.aggregateCalls
  | .call name arguments =>
      match AggregateFunction.ofName? name with
      | some function => [aggregateCall function arguments]
      | none => aggregateCallsOfAll arguments
  | .invocation _ arguments => aggregateCallsOfAll arguments

/-- The aggregate calls in several expressions. -/
def aggregateCallsOfAll : List Expr → List Aggregate
  | [] => []
  | first :: rest => first.aggregateCalls ++ aggregateCallsOfAll rest

end

mutual

/-- Without aggregate calls there is nothing to take out. -/
theorem withoutAggregates_of_no_calls : ∀ (expr : Expr), expr.aggregateCalls = [] →
    expr.withoutAggregates = expr
  | .column _, _ | .literal _, _ => rfl
  | .binary op left right, free => by
      simp only [aggregateCalls, List.append_eq_nil_iff] at free
      rw [withoutAggregates, withoutAggregates_of_no_calls left free.1,
        withoutAggregates_of_no_calls right free.2]
  | .not operand, free | .negate operand, free | .isNull operand, free
  | .isNotNull operand, free | .cast operand _ _, free | .field operand _, free => by
      rw [withoutAggregates, withoutAggregates_of_no_calls operand free]
  | .call name arguments, free => by
      simp only [aggregateCalls] at free
      split at free
      · cases free
      · next ordinary =>
          simp only [withoutAggregates, ordinary]
          rw [withoutAllAggregates_of_no_calls arguments free]
  | .invocation function arguments, free => by
      rw [withoutAggregates, withoutAllAggregates_of_no_calls arguments free]

theorem withoutAllAggregates_of_no_calls : ∀ (exprs : List Expr),
    aggregateCallsOfAll exprs = [] → withoutAllAggregates exprs = exprs
  | [], _ => rfl
  | first :: rest, free => by
      simp only [aggregateCallsOfAll, List.append_eq_nil_iff] at free
      rw [withoutAllAggregates, withoutAggregates_of_no_calls first free.1,
        withoutAllAggregates_of_no_calls rest free.2]

end

end Expr

/-! ## Sharing columns -/

/-- Adds an aggregate unless there is one of its name. -/
def addAggregate (aggregates : List Aggregate) (aggregate : Aggregate) : List Aggregate :=
  if aggregates.any (·.name == aggregate.name) then aggregates else aggregates ++ [aggregate]

/-- Adds several aggregates, one after the other. -/
def addAggregates (aggregates calls : List Aggregate) : List Aggregate :=
  calls.foldl addAggregate aggregates

@[simp] theorem addAggregates_nil (aggregates : List Aggregate) :
    addAggregates aggregates [] = aggregates := rfl

theorem addAggregates_append (aggregates first second : List Aggregate) :
    addAggregates aggregates (first ++ second)
      = addAggregates (addAggregates aggregates first) second := by
  simp only [addAggregates, List.foldl_append]

/-- Looking for an aggregate by its name finds the first call of that name. -/
theorem find?_addAggregates (wanted : Aggregate → Bool)
    (byName : ∀ left right, left.name = right.name → wanted left = wanted right)
    (aggregates calls : List Aggregate) :
    (addAggregates aggregates calls).find? wanted = (aggregates ++ calls).find? wanted := by
  induction calls generalizing aggregates with
  | nil => simp
  | cons call rest ih =>
      have step : addAggregates aggregates (call :: rest)
          = addAggregates (addAggregate aggregates call) rest := rfl
      rw [step, ih, addAggregate]
      split
      · next known =>
          obtain ⟨earlier, member, named⟩ := List.any_eq_true.mp known
          have alike := byName earlier call (eq_of_beq named)
          cases found : aggregates.find? wanted with
          | some first => simp [List.find?_append, found]
          | none =>
              have refused := List.find?_eq_none.mp found earlier member
              rw [alike] at refused
              simp [List.find?_append, refused]
      · simp [List.append_assoc]

/-- Adding aggregates keeps those that are there, in front. -/
theorem prefix_addAggregates (aggregates calls : List Aggregate) :
    aggregates <+: addAggregates aggregates calls := by
  induction calls generalizing aggregates with
  | nil => exact List.prefix_refl _
  | cons call rest ih =>
      refine List.IsPrefix.trans ?_ (ih (addAggregate aggregates call))
      unfold addAggregate
      split
      · exact List.prefix_refl _
      · exact List.prefix_append _ _

namespace Expr

/-! ## Collecting does both -/

theorem eq_of_collectAggregate {function : AggregateFunction} {arguments : List Expr}
    {aggregates : List Aggregate} {outcome : Expr × List Aggregate}
    (collected : collectAggregate function arguments aggregates = .ok outcome) :
    outcome = (.column (aggregateCall function arguments).name,
      addAggregates aggregates [aggregateCall function arguments]) := by
  simp only [collectAggregate, state_bind_eq_ok, state_lift_eq_ok, state_pure_eq_ok]
    at collected
  obtain ⟨argument, _, ⟨accepted, rfl⟩, _, _, modified, rfl⟩ := collected
  cases modified
  simp [aggregateCall, accepted, Except.toOption, addAggregates, addAggregate]

theorem eq_of_collectAllAggregates {arguments : List Expr} {aggregates : List Aggregate}
    {outcome : List Expr × List Aggregate}
    (each : ∀ argument ∈ arguments, ∀ {aggregates : List Aggregate}
      {outcome : Expr × List Aggregate},
      argument.collectAggregates aggregates = .ok outcome →
        outcome = (argument.withoutAggregates, addAggregates aggregates argument.aggregateCalls))
    (collected : collectAllAggregates arguments aggregates = .ok outcome) :
    outcome = (withoutAllAggregates arguments,
      addAggregates aggregates (aggregateCallsOfAll arguments)) := by
  induction arguments generalizing aggregates outcome with
  | nil =>
      simp only [collectAllAggregates, state_pure_eq_ok] at collected
      exact collected.symm
  | cons first rest ih =>
      obtain ⟨here, later⟩ := List.forall_mem_cons.mp each
      simp only [collectAllAggregates, state_bind_eq_ok, state_pure_eq_ok] at collected
      obtain ⟨_, _, firstCollected, _, _, restCollected, rfl⟩ := collected
      cases here firstCollected
      cases ih later restCollected
      simp only [withoutAllAggregates, aggregateCallsOfAll, addAggregates_append]

/-- **Collecting aggregates** rewrites the expression and adds its calls. -/
theorem eq_of_collectAggregates {expr : Expr} {aggregates : List Aggregate}
    {outcome : Expr × List Aggregate}
    (collected : expr.collectAggregates aggregates = .ok outcome) :
    outcome = (expr.withoutAggregates, addAggregates aggregates expr.aggregateCalls) := by
  induction expr using inductionOn generalizing aggregates outcome with
  | column _ | literal _ =>
      simp only [Expr.collectAggregates, state_pure_eq_ok] at collected
      exact collected.symm
  | binary op left right leftEq rightEq =>
      simp only [Expr.collectAggregates, state_bind_eq_ok, state_pure_eq_ok] at collected
      obtain ⟨_, _, leftCollected, _, _, rightCollected, rfl⟩ := collected
      cases leftEq leftCollected
      cases rightEq rightCollected
      simp only [withoutAggregates, aggregateCalls, addAggregates_append]
  | not operand operandEq | negate operand operandEq | isNull operand operandEq
  | isNotNull operand operandEq =>
      obtain ⟨rewritten, after⟩ := outcome
      simp only [Expr.collectAggregates, state_map_eq_ok] at collected
      obtain ⟨_, operandCollected, rfl⟩ := collected
      cases operandEq operandCollected
      rfl
  | cast operand _ _ operandEq | field operand _ operandEq =>
      simp only [Expr.collectAggregates, state_bind_eq_ok, state_pure_eq_ok] at collected
      obtain ⟨_, _, operandCollected, rfl⟩ := collected
      cases operandEq operandCollected
      rfl
  | call name arguments each =>
      cases known : AggregateFunction.ofName? name with
      | some function =>
          simp only [Expr.collectAggregates, known] at collected
          rw [eq_of_collectAggregate collected]
          simp only [withoutAggregates, aggregateCalls, known]
      | none =>
          obtain ⟨rewritten, after⟩ := outcome
          simp only [Expr.collectAggregates, known, state_map_eq_ok] at collected
          obtain ⟨_, argumentsCollected, rfl⟩ := collected
          cases eq_of_collectAllAggregates each argumentsCollected
          simp only [withoutAggregates, aggregateCalls, known]
  | invocation function arguments each =>
      obtain ⟨rewritten, after⟩ := outcome
      simp only [Expr.collectAggregates, state_map_eq_ok] at collected
      obtain ⟨_, argumentsCollected, rfl⟩ := collected
      cases eq_of_collectAllAggregates each argumentsCollected
      rfl

end Expr

end ScalarSql
