import ScalarSql.Aggregate.Grouping
import ScalarSql.Proofs.Computation
import ScalarSql.Proofs.Expr.Operands

/-!
# Failing functions

Operators, casts, fields and columns have faults of their own, and none of them is that of
a failing function, `OwnFault`.  An expression therefore fails as a function does only
where it invokes one, `Expr.of_evaluate_failed`: the policy lets the error through, and the
error names the row that the expression is evaluated against, unless the function has
already named another one.

The same holds of grouping: accumulators have faults of their own, so that a failing
function is one that a key or an argument of an aggregate invokes, on the row at the
reported position, `of_groupRows_failed`.
-/

set_option autoImplicit false

namespace ScalarSql

/-! ## Faults of operations -/

/-- Whether an error is anything but a failing function. -/
def Error.IsOwn : Error → Prop
  | .functionFailed .. => False
  | _ => True

/-- A computation that does not fail as a function does. -/
def OwnFault {α : Type} : Except Error α → Prop
  | .ok _ => True
  | .error error => error.IsOwn

theorem ownFault_error {α : Type} {error : Error} :
    OwnFault (.error error : Except Error α) ↔ error.IsOwn := Iff.rfl

namespace OwnFault

variable {α β : Type} {outcome : Except Error α}

theorem map {f : α → β} (own : OwnFault outcome) : OwnFault (outcome.map f) := by
  cases outcome with
  | ok result => trivial
  | error error => exact ownFault_error.mpr own

/-- A fault of its own is passed on as such. -/
theorem passOn (own : OwnFault outcome) {error : Error} (failed : outcome = .error error) :
    OwnFault (.error error : Except Error β) := by
  rw [failed] at own
  exact ownFault_error.mpr own

theorem mapError_analysis {outcome : Except AnalysisError α} :
    OwnFault (outcome.mapError .analysis) := by
  cases outcome <;> trivial

/-- A fault of its own is not that of a function. -/
theorem ne_failed (own : OwnFault outcome) {function message : String} {row : Option Nat} :
    outcome ≠ .error (.functionFailed function row message) := by
  intro failed
  rw [failed] at own
  exact own

end OwnFault

namespace Value

theorem toDouble_ownFault (value : Value) : OwnFault value.toDouble := by
  cases value <;> trivial

theorem toDecimal_ownFault (value : Value) : OwnFault value.toDecimal := by
  cases value with
  | double number =>
      simp only [toDecimal]
      split <;> trivial
  | _ => trivial

theorem negate_ownFault (value : Value) : OwnFault value.negate := by
  cases value with
  | int number | long number =>
      simp only [negate]
      split <;> trivial
  | _ => trivial

theorem castResult_ownFault (value : Value) (target : DataType) (found : Option Value) :
    OwnFault (castResult value target found) := by
  cases found <;> trivial

theorem castTo_ownFault (value : Value) (target : DataType) (checked : Bool) :
    OwnFault (value.castTo target checked) := by
  unfold castTo
  split
  · trivial
  · unfold convertTo
    split
    case h_1 | h_2 => split <;> trivial
    case h_3 | h_4 | h_5 | h_6 => exact (toDouble_ownFault _).map
    case h_7 | h_8 | h_9 => exact (toDecimal_ownFault _).map
    case h_11 | h_12 | h_13 | h_14 => exact castResult_ownFault _ _ _
    all_goals trivial

end Value

theorem Arithmetic.integral_ownFault {bits : Nat} (op : Arithmetic)
    (wrap : BoundedInt bits → Value) (left right : BoundedInt bits) :
    OwnFault (op.integral wrap left right) := by
  unfold integral
  split
  · trivial
  · split <;> trivial

theorem Arithmetic.floating_ownFault (op : Arithmetic) (left right : Value) :
    OwnFault (op.floating left right) := by
  unfold floating
  split
  · next failed => exact left.toDouble_ownFault.passOn failed
  · split
    · next failed => exact right.toDouble_ownFault.passOn failed
    · split <;> trivial

theorem Arithmetic.exact_ownFault (op : Arithmetic) (left right : Value) :
    OwnFault (op.exact left right) := by
  unfold exact
  split
  · next failed => exact left.toDecimal_ownFault.passOn failed
  · split
    · next failed => exact right.toDecimal_ownFault.passOn failed
    · split
      · trivial
      · split <;> trivial

/-- A binary operator has faults of its own. -/
theorem Operator.apply_ownFault (op : Operator) (left right : Value) :
    OwnFault (op.apply left right) := by
  cases op with
  | logical link => trivial
  | comparison test => trivial
  | arithmetic calculation =>
      simp only [Operator.apply]
      split
      · trivial
      · unfold Arithmetic.apply
        split
        case h_1 | h_2 | h_3 | h_4 => exact calculation.integral_ownFault _ _ _
        case h_5 | h_6 => exact calculation.floating_ownFault _ _
        case h_7 => exact calculation.exact_ownFault _ _

namespace Expr

theorem evaluateColumn_ownFault (context : RowContext) (name : String) :
    OwnFault (evaluateColumn context name) := by
  unfold evaluateColumn
  split
  · trivial
  · split <;> trivial

theorem evaluateNot_ownFault (value : Value) : OwnFault (evaluateNot value) := by
  cases value <;> trivial

/-- Types are not found by calling functions. -/
theorem dataType_ownFault (schema : Schema) (expr : Expr) : OwnFault (expr.dataType schema) := by
  induction expr using inductionOn with
  | column name =>
      unfold dataType
      split <;> trivial
  | binary op left right leftOwn rightOwn =>
      rw [dataType]
      split
      · next failed => exact leftOwn.passOn failed
      · split
        · next failed => exact rightOwn.passOn failed
        · exact OwnFault.mapError_analysis
  | negate operand own => exact own
  | field base name own =>
      rw [dataType]
      split
      · next failed => exact own.passOn failed
      · exact OwnFault.mapError_analysis
  | _ => trivial

/-! ## Failures of expressions -/

/-- A function that the expression invokes fails, which is reported for the row at a
position unless the function has named a row itself. -/
def InvokesFailing (expr : Expr) (index : Nat) (function : String) (row : Option Nat)
    (message : String) : Prop :=
  ∃ resolved arguments values reported, .invocation resolved arguments ∈ expr.parts ∧
    resolved.callable.invoke values = .error (.functionFailed function reported message) ∧
    row = some (reported.getD index)

theorem InvokesFailing.of_operand {expr operand : Expr} {index : Nat} {row : Option Nat}
    {function message : String} (member : operand ∈ expr.operands)
    (failing : operand.InvokesFailing index function row message) :
    expr.InvokesFailing index function row message := by
  obtain ⟨resolved, arguments, values, reported, isPart, invoked, tagged⟩ := failing
  refine ⟨resolved, arguments, values, reported, ?_, invoked, tagged⟩
  rw [parts_eq_cons]
  exact List.mem_cons_of_mem _ (List.mem_flatMap.mpr ⟨operand, member, isPart⟩)

/-- A call that fails under a policy is a function that fails, and the policy is to
abort. -/
theorem of_settle_failed {policy : FailurePolicy} {index : Nat} {outcome : Except Error Value}
    {function message : String} {row : Option Nat}
    (failed : policy.settle index outcome = .error (.functionFailed function row message)) :
    policy = .abort ∧ ∃ reported,
      outcome = .error (.functionFailed function reported message) ∧
        row = some (reported.getD index) := by
  unfold FailurePolicy.settle at failed
  split at failed
  · next name reported text =>
      cases policy with
      | null => cases failed
      | abort =>
          cases reported with
          | none =>
              cases failed
              exact ⟨rfl, none, rfl, rfl⟩
          | some earlier =>
              cases failed
              exact ⟨rfl, some earlier, rfl, rfl⟩
  · next other => exact absurd failed (other function row message)

variable {context : RowContext} {function message : String} {row : Option Nat}

theorem of_evaluateAll_error {exprs : List Expr} {error : Error}
    (failed : evaluateAll context exprs = .error error) :
    ∃ expr ∈ exprs, expr.evaluate context = .error error := by
  induction exprs with
  | nil => cases failed
  | cons first rest ih =>
      simp only [evaluateAll] at failed
      split at failed
      · next here =>
          cases failed
          exact ⟨first, List.mem_cons_self, here⟩
      · split at failed
        · next later =>
            cases failed
            obtain ⟨expr, member, here⟩ := ih later
            exact ⟨expr, List.mem_cons_of_mem _ member, here⟩
        · cases failed

/-- **An expression fails as a function does** only if it invokes a failing function and
the policy is to abort; the error is reported for the row of the context. -/
theorem of_evaluate_failed {expr : Expr}
    (failed : expr.evaluate context = .error (.functionFailed function row message)) :
    context.policy = .abort ∧ expr.InvokesFailing context.index function row message := by
  induction expr using inductionOnOperands with
  | step expr ih =>
      -- What an operand reports is reported for the whole expression.
      have below : ∀ operand ∈ expr.operands,
          operand.evaluate context = .error (.functionFailed function row message) →
            context.policy = .abort ∧
              expr.InvokesFailing context.index function row message := by
        intro operand member operandFailed
        obtain ⟨aborts, failing⟩ := ih operand member operandFailed
        exact ⟨aborts, failing.of_operand member⟩
      cases expr with
      | column name => exact absurd failed (evaluateColumn_ownFault context name).ne_failed
      | literal value => cases failed
      | call name arguments => cases failed
      | binary op left right =>
          simp only [evaluate] at failed
          split at failed
          · next leftFailed =>
              cases failed
              exact below left (by simp [operands]) leftFailed
          · split at failed
            · cases failed
            · split at failed
              · next rightFailed =>
                  cases failed
                  exact below right (by simp [operands]) rightFailed
              · exact absurd failed (op.apply_ownFault _ _).ne_failed
      | not operand | negate operand | isNull operand | isNotNull operand
      | cast operand target checked | field operand name =>
          simp only [evaluate] at failed
          split at failed
          · next operandFailed =>
              cases failed
              exact below operand (List.mem_singleton_self operand) operandFailed
          · first
              | cases failed
              | exact absurd failed (evaluateNot_ownFault _).ne_failed
              | exact absurd failed (Value.negate_ownFault _).ne_failed
              | exact absurd failed (Value.castTo_ownFault _ _ _).ne_failed
      | invocation resolved arguments =>
          simp only [evaluate] at failed
          split at failed
          · next argumentsFailed =>
              cases failed
              obtain ⟨argument, member, argumentFailed⟩ := of_evaluateAll_error argumentsFailed
              exact below argument member argumentFailed
          · next values _ =>
              obtain ⟨aborts, reported, invoked, tagged⟩ := of_settle_failed failed
              refine ⟨aborts, resolved, arguments, values, reported, ?_, invoked, tagged⟩
              rw [parts_eq_cons]
              exact List.mem_cons_self

/-- A predicate that fails as a function does fails in its value. -/
theorem of_holds_failed {predicate : Expr}
    (failed : predicate.holds context = .error (.functionFailed function row message)) :
    predicate.evaluate context = .error (.functionFailed function row message) := by
  unfold holds at failed
  split at failed
  · next error evaluated =>
      cases failed
      exact evaluated
  · cases failed
  · cases failed
  · cases failed

end Expr

/-! ## Failures of groupings -/

namespace Accumulator

theorem addTo_ownFault (total : Option Value) (value : Value) : OwnFault (addTo total value) := by
  cases total with
  | none => trivial
  | some current => exact Operator.apply_ownFault (.arithmetic .add) current value

theorem addStep_ownFault {keep failed : Accumulator} {next : Option Value → Accumulator}
    {total : Option Value} {value : Value} {sumType : DataType} {error : Error}
    (failure : (addStep keep next failed total value sumType).failure = some error) :
    error.IsOwn := by
  have castOwn := value.castTo_ownFault sumType false
  unfold addStep at failure
  split at failure
  · next cast =>
      cases failure
      rw [cast] at castOwn
      exact castOwn
  · next addend _ =>
      have addOwn := addTo_ownFault total addend
      split at failure
      · next added =>
          cases failure
          rw [added] at addOwn
          exact addOwn
      · cases failure

/-- Updating an accumulator has faults of its own. -/
theorem update_ownFault (accumulator : Accumulator) (value : Value) (sumType : DataType) :
    OwnFault (accumulator.update value sumType) := by
  unfold update
  split
  · next state error stepped =>
      have failure : (accumulator.step value sumType).failure = some error := by rw [stepped]
      unfold step at failure
      split at failure
      · cases failure
      · split at failure
        case h_2 | h_3 =>
          exact ownFault_error.mpr (addStep_ownFault failure)
        all_goals cases failure
  · trivial

theorem finish_ownFault (accumulator : Accumulator) : OwnFault accumulator.finish := by
  cases accumulator with
  | avg total rows =>
      cases total with
      | none => trivial
      | some sum => exact Operator.apply_ownFault (.arithmetic .div) sum _
  | _ => trivial

end Accumulator

namespace Group

variable {context : RowContext} {function message : String} {row : Option Nat}

theorem of_takeRow_failed {aggregates : List TypedAggregate} {states : List Accumulator}
    (failed : takeRow context aggregates states = .error (.functionFailed function row message)) :
    ∃ typed ∈ aggregates, typed.aggregate.expr.evaluate context
      = .error (.functionFailed function row message) := by
  induction aggregates generalizing states with
  | nil => cases failed
  | cons typed rest ih =>
      cases states with
      | nil => cases failed
      | cons state others =>
          simp only [takeRow] at failed
          split at failed
          · next evaluated =>
              cases failed
              exact ⟨typed, List.mem_cons_self, evaluated⟩
          · split at failed
            · next updated =>
                cases failed
                exact absurd updated (state.update_ownFault _ _).ne_failed
            · cases later : takeRow context rest others with
              | ok result =>
                  rw [later] at failed
                  cases failed
              | error error =>
                  rw [later] at failed
                  cases failed
                  obtain ⟨other, member, evaluated⟩ := ih later
                  exact ⟨other, List.mem_cons_of_mem _ member, evaluated⟩

theorem of_insertRow_failed {aggregates : List TypedAggregate} {key : List Value}
    {groups : List Group}
    (failed : insertRow context aggregates key groups
      = .error (.functionFailed function row message)) :
    ∃ typed ∈ aggregates, typed.aggregate.expr.evaluate context
      = .error (.functionFailed function row message) := by
  induction groups with
  | nil =>
      simp only [insertRow] at failed
      exact of_takeRow_failed (map_eq_error.mp failed)
  | cons group rest ih =>
      simp only [insertRow] at failed
      split at failed
      · exact of_takeRow_failed (map_eq_error.mp failed)
      · exact ih (map_eq_error.mp failed)

theorem finishAll_ownFault (states : List Accumulator) : OwnFault (finishAll states) := by
  induction states with
  | nil => trivial
  | cons state rest ih =>
      rw [finishAll]
      split
      · next failed => exact state.finish_ownFault.passOn failed
      · exact ih.map

theorem finishRows_ownFault (groups : List Group) : OwnFault (finishRows groups) := by
  induction groups with
  | nil => trivial
  | cons group rest ih =>
      rw [finishRows]
      split
      · next failed => exact (finishAll_ownFault group.states).passOn failed
      · exact ih.map

theorem of_insertRows_failed {schema : Schema} {policy : FailurePolicy} {keys : List Expr}
    {aggregates : List TypedAggregate} {groups : List Group} {first : Nat} {rows : List Row}
    (failed : insertRows schema policy keys aggregates groups first rows
      = .error (.functionFailed function row message)) :
    ∃ position current, rows[position]? = some current ∧
      ∃ expr ∈ keys ++ aggregates.map fun typed => typed.aggregate.expr,
        expr.evaluate { schema, policy, row := current, index := first + position }
          = .error (.functionFailed function row message) := by
  induction rows generalizing groups first with
  | nil => cases failed
  | cons current rest ih =>
      simp only [insertRows] at failed
      split at failed
      · next keysFailed =>
          cases failed
          obtain ⟨expr, member, evaluated⟩ := Expr.of_evaluateAll_error keysFailed
          exact ⟨0, current, rfl, expr, List.mem_append_left _ member, evaluated⟩
      · split at failed
        · next inserted =>
            cases failed
            obtain ⟨typed, member, evaluated⟩ := of_insertRow_failed inserted
            exact ⟨0, current, rfl, _, List.mem_append_right _ (List.mem_map_of_mem member),
              evaluated⟩
        · obtain ⟨position, other, atPosition, expr, member, evaluated⟩ := ih failed
          refine ⟨position + 1, other, atPosition, expr, member, ?_⟩
          rwa [Nat.add_assoc, Nat.add_comm 1] at evaluated

end Group

/-- **A grouping fails as a function does** where a key or an argument of an aggregate
does, on some row at its position. -/
theorem of_groupRows_failed {schema : Schema} {policy : FailurePolicy} {keys : List Expr}
    {aggregates : List TypedAggregate} {rows : List Row} {function message : String}
    {row : Option Nat}
    (failed : groupRows schema policy keys aggregates rows
      = .error (.functionFailed function row message)) :
    ∃ position current, rows[position]? = some current ∧
      ∃ expr ∈ keys ++ aggregates.map fun typed => typed.aggregate.expr,
        expr.evaluate { schema, policy, row := current, index := position }
          = .error (.functionFailed function row message) := by
  unfold groupRows at failed
  split at failed
  · next inserted =>
      cases failed
      obtain ⟨position, current, atPosition, found⟩ := Group.of_insertRows_failed inserted
      rw [Nat.zero_add] at found
      exact ⟨position, current, atPosition, found⟩
  · exact absurd failed (Group.finishRows_ownFault _).ne_failed

end ScalarSql
