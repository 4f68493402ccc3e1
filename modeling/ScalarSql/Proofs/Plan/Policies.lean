import ScalarSql.Proofs.Plan.Batching

/-!
# The policy that puts `NULL` in place of a failing function

A plan is executed twice over the same tables: once under the policy to abort, and once
under the policy that makes the result of a failing call `NULL`.

**Two runs.**  `AgreesUnlessFailed` relates what the first run computes to what the second
one computes in the same place: the second one ends in the same way, with a value or with a
fault of its own, unless a function fails in the first.  Only a call tells the runs apart,
`agreesUnlessFailed_settle`.  Everything else computes with what calls give, step after
step, so that the relation is kept by a step after related steps,
`AgreesUnlessFailed.bind`, and hence by expressions, rows, groups, operators and plans.

**No failing function is left.**  Under the second policy no expression fails as a function
does, `Expr.of_evaluate_failed`.  A plan does so only if reading a table does, and no table
of a catalog does.

**Main result.**  `Plan.execute_null`.
-/

set_option autoImplicit false

namespace ScalarSql

/-! ## Two runs -/

/-- The second computation ends as the first one does, unless a function fails in the
first. -/
def AgreesUnlessFailed {α : Type} (strict lenient : Except Error α) : Prop :=
  OwnFault strict → lenient = strict

namespace AgreesUnlessFailed

variable {α β : Type} {strict lenient : Except Error α}

theorem refl (outcome : Except Error α) : AgreesUnlessFailed outcome outcome :=
  fun _ => rfl

/-- Whatever the second computation does, a function has failed in the first. -/
theorem of_failed {error : Error} (failed : ¬ error.IsOwn) :
    AgreesUnlessFailed (.error error) lenient :=
  fun own => absurd own failed

/-- Both computations end with the same value or the same error, or a function fails in the
first. -/
@[elab_as_elim]
theorem elim {motive : Except Error α → Except Error α → Prop}
    (agrees : AgreesUnlessFailed strict lenient)
    (ok : ∀ value, motive (.ok value) (.ok value))
    (error : ∀ error, motive (.error error) (.error error))
    (failed : ∀ error lenient, ¬ error.IsOwn → motive (.error error) lenient) :
    motive strict lenient := by
  by_cases own : OwnFault strict
  · rw [agrees own]
    cases strict with
    | error fault => exact error fault
    | ok value => exact ok value
  · cases strict with
    | error fault => exact failed fault lenient own
    | ok value => exact absurd trivial own

/-- A step after related steps: where the first steps end with the same value, the next ones
are related. -/
theorem bind {f g : α → Except Error β} (first : AgreesUnlessFailed strict lenient)
    (next : ∀ value, AgreesUnlessFailed (f value) (g value)) :
    AgreesUnlessFailed (strict >>= f) (lenient >>= g) :=
  first.elim next (fun _ => .refl _) fun _ _ failed => .of_failed failed

theorem map {f : α → β} (first : AgreesUnlessFailed strict lenient) :
    AgreesUnlessFailed (strict.map f) (lenient.map f) :=
  first.elim (fun _ => .refl _) (fun _ => .refl _) fun _ _ failed => .of_failed failed

/-- What succeeds under the first policy succeeds with the same result. -/
theorem eq_ok (agrees : AgreesUnlessFailed strict lenient) {result : α}
    (succeeded : strict = .ok result) : lenient = .ok result := by
  subst succeeded
  exact agrees trivial

end AgreesUnlessFailed

/-- A call ends in the same way under both policies unless its function fails. -/
theorem agreesUnlessFailed_settle (index : Nat) (outcome : Except Error Value) :
    AgreesUnlessFailed (FailurePolicy.abort.settle index outcome)
      (FailurePolicy.null.settle index outcome) := by
  intro own
  unfold FailurePolicy.settle at own ⊢
  split
  · next function row message =>
      -- The failure is tied to a row, and with it still is one of a function.
      cases row <;> exact absurd own id
  · rfl

/-! ## Expressions -/

namespace Expr

variable (schema : Schema) (row : Row) (index : Nat)

theorem agrees_evaluateAll {exprs : List Expr}
    (each : ∀ expr ∈ exprs, AgreesUnlessFailed
      (expr.evaluate { schema, policy := .abort, row, index })
      (expr.evaluate { schema, policy := .null, row, index })) :
    AgreesUnlessFailed (evaluateAll { schema, policy := .abort, row, index } exprs)
      (evaluateAll { schema, policy := .null, row, index } exprs) := by
  induction exprs with
  | nil => exact .refl _
  | cons first rest ih =>
      obtain ⟨here, later⟩ := List.forall_mem_cons.mp each
      simp only [evaluateAll]
      refine here.elim (fun value => ?_) (fun _ => .refl _) fun _ _ failed => .of_failed failed
      exact (ih later).elim (fun _ => .refl _) (fun _ => .refl _)
        fun _ _ failed => .of_failed failed

/-- **An expression** has the same outcome under both policies unless a function fails. -/
theorem agrees_evaluate (expr : Expr) :
    AgreesUnlessFailed (expr.evaluate { schema, policy := .abort, row, index })
      (expr.evaluate { schema, policy := .null, row, index }) := by
  induction expr using inductionOn with
  | column name | literal value | call name arguments => exact .refl _
  | binary op left right leftAgrees rightAgrees =>
      simp only [evaluate]
      refine leftAgrees.elim (fun leftValue => ?_) (fun _ => .refl _)
        fun _ _ failed => .of_failed failed
      -- Whether the right operand is looked at is decided by the value of the left one.
      dsimp only
      cases shortcut? op leftValue with
      | some decided => exact .refl _
      | none =>
          exact rightAgrees.elim (fun _ => .refl _) (fun _ => .refl _)
            fun _ _ failed => .of_failed failed
  | not operand agrees | negate operand agrees | isNull operand agrees
  | isNotNull operand agrees | cast operand _ _ agrees | field operand _ agrees =>
      simp only [evaluate]
      exact agrees.elim (fun _ => .refl _) (fun _ => .refl _) fun _ _ failed => .of_failed failed
  | invocation function arguments each =>
      simp only [evaluate]
      exact (agrees_evaluateAll schema row index each).elim
        (fun values => agreesUnlessFailed_settle index _) (fun _ => .refl _)
        fun _ _ failed => .of_failed failed

theorem agrees_holds (predicate : Expr) :
    AgreesUnlessFailed (predicate.holds { schema, policy := .abort, row, index })
      (predicate.holds { schema, policy := .null, row, index }) := by
  unfold holds
  exact (predicate.agrees_evaluate schema row index).elim (fun _ => .refl _) (fun _ => .refl _)
    fun _ _ failed => .of_failed failed

end Expr

/-! ## Rows and groups -/

/-- Computations that agree on every row agree on all of them. -/
theorem agrees_mapRows {α : Type} {f g : Row → Nat → Except Error α}
    (each : ∀ row index, AgreesUnlessFailed (f row index) (g row index)) (index : Nat)
    (rows : List Row) : AgreesUnlessFailed (mapRows f index rows) (mapRows g index rows) := by
  induction rows generalizing index with
  | nil => exact .refl _
  | cons row rest ih =>
      rw [mapRows_cons, mapRows_cons]
      refine (each row index).bind fun here => ?_
      exact (ih (index + 1)).bind fun others => .refl _

theorem agrees_mapRows_evaluateAll (schema : Schema) (exprs : List Expr) (rows : List Row) :
    AgreesUnlessFailed
      (mapRows (fun row index =>
        Expr.evaluateAll { schema, policy := .abort, row, index } exprs) 0 rows)
      (mapRows (fun row index =>
        Expr.evaluateAll { schema, policy := .null, row, index } exprs) 0 rows) :=
  agrees_mapRows (fun row index =>
    Expr.agrees_evaluateAll schema row index fun expr _ =>
      expr.agrees_evaluate schema row index) 0 rows

namespace Group

variable (schema : Schema) (aggregates : List TypedAggregate)

theorem agrees_takeRow (row : Row) (index : Nat) (states : List Accumulator) :
    AgreesUnlessFailed (takeRow { schema, policy := .abort, row, index } aggregates states)
      (takeRow { schema, policy := .null, row, index } aggregates states) := by
  induction aggregates generalizing states with
  | nil => exact .refl _
  | cons typed rest ih =>
      cases states with
      | nil => exact .refl _
      | cons state others =>
          simp only [takeRow]
          refine (typed.aggregate.expr.agrees_evaluate schema row index).elim
            (fun value => ?_) (fun _ => .refl _) fun _ _ failed => .of_failed failed
          dsimp only
          cases state.update value typed.sumType with
          | error error => exact .refl _
          | ok next => exact (ih others).map

theorem agrees_insertRow (row : Row) (index : Nat) (key : List Value) (groups : List Group) :
    AgreesUnlessFailed (insertRow { schema, policy := .abort, row, index } aggregates key groups)
      (insertRow { schema, policy := .null, row, index } aggregates key groups) := by
  induction groups with
  | nil => exact (agrees_takeRow schema aggregates row index _).map
  | cons group rest ih =>
      simp only [insertRow]
      split
      · exact (agrees_takeRow schema aggregates row index _).map
      · exact ih.map

theorem agrees_insertRows (keys : List Expr) (groups : List Group) (index : Nat)
    (rows : List Row) :
    AgreesUnlessFailed (insertRows schema .abort keys aggregates groups index rows)
      (insertRows schema .null keys aggregates groups index rows) := by
  induction rows generalizing groups index with
  | nil => exact .refl _
  | cons row rest ih =>
      have keysAgree := Expr.agrees_evaluateAll schema row index fun expr (_ : expr ∈ keys) =>
        expr.agrees_evaluate schema row index
      simp only [insertRows]
      refine keysAgree.elim (fun key => ?_) (fun _ => .refl _)
        fun _ _ failed => .of_failed failed
      dsimp only
      exact (agrees_insertRow schema aggregates row index key groups).elim
        (fun next => ih next (index + 1)) (fun _ => .refl _) fun _ _ failed => .of_failed failed

end Group

theorem agrees_groupRows (schema : Schema) (keys : List Expr) (aggregates : List TypedAggregate)
    (rows : List Row) :
    AgreesUnlessFailed (groupRows schema .abort keys aggregates rows)
      (groupRows schema .null keys aggregates rows) := by
  unfold groupRows
  exact (Group.agrees_insertRows schema aggregates keys [] 0 rows).elim (fun _ => .refl _)
    (fun _ => .refl _) fun _ _ failed => .of_failed failed

/-! ## Plans -/

namespace Plan

/-- **One operator** makes the same of the rows that come in under both policies, unless a
function fails. -/
theorem agrees_operateRows (schema : Schema) (rows : List Row) (plan : Plan) :
    AgreesUnlessFailed (operateRows .abort schema rows plan)
      (operateRows .null schema rows plan) := by
  cases plan with
  | oneRow | scan name aliasName | limit count offset input => exact .refl _
  | filter predicate input =>
      have marksAgree := agrees_mapRows (fun row index =>
        predicate.agrees_holds schema row index) 0 rows
      exact marksAgree.bind fun marks => .refl _
  | project items input =>
      simp only [operateRows]
      refine (AgreesUnlessFailed.refl _).bind fun columns => ?_
      exact (agrees_mapRows_evaluateAll schema _ rows).bind fun projected => .refl _
  | aggregate keys aggregates input =>
      simp only [operateRows]
      refine (AgreesUnlessFailed.refl _).bind fun keyColumns => ?_
      refine (AgreesUnlessFailed.refl _).bind fun typed => ?_
      exact (agrees_groupRows schema _ typed rows).bind fun grouped => .refl _
  | sort keys input =>
      exact (agrees_mapRows_evaluateAll schema _ rows).bind fun values => .refl _

/-- **A plan**, operator after operator, makes the same rows under both policies unless a
function fails. -/
theorem agrees_rowsFrom (source : TableSource) (plan : Plan) :
    AgreesUnlessFailed (plan.rowsFrom source .abort) (plan.rowsFrom source .null) := by
  induction plan using inductionOnInput with
  | step plan ih =>
      cases isInput : plan.input? with
      | some input =>
          rw [rowsFrom_of_input isInput, rowsFrom_of_input isInput]
          exact (ih input isInput).bind fun result => plan.agrees_operateRows result.1 result.2
      | none =>
          cases plan with
          | oneRow => exact .refl _
          | scan name aliasName => exact .refl _
          | _ => cases isInput

theorem agrees_executeFrom (source : TableSource) (plan : Plan) :
    AgreesUnlessFailed (plan.executeFrom source .abort) (plan.executeFrom source .null) := by
  rw [executeFrom_eq_executeRows, executeFrom_eq_executeRows]
  exact (plan.agrees_rowsFrom source).map

/-- Where failing calls are `NULL`, a plan fails as a function does only if reading one of
its tables does. -/
theorem of_rowsFrom_null_failed {source : TableSource} {plan : Plan} {function message : String}
    {row : Option Nat}
    (failed : plan.rowsFrom source .null = .error (.functionFailed function row message)) :
    ∃ name aliasName, .scan name aliasName ∈ plan.operators ∧
      source.scan name aliasName = .error (.functionFailed function row message) := by
  induction plan using inductionOnInput with
  | step plan ih =>
      cases isInput : plan.input? with
      | some input =>
          rw [rowsFrom_of_input isInput, bind_eq_error] at failed
          rcases failed with below | ⟨⟨schema, rows⟩, -, here⟩
          · obtain ⟨name, aliasName, isScan, scanFailed⟩ := ih input isInput below
            exact ⟨name, aliasName, mem_operators_of_input isInput isScan, scanFailed⟩
          · -- An operator fails so only where an expression of it does, and the policy is
            -- not to abort.
            obtain ⟨position, current, -, expr, -, evaluated⟩ := of_operateRows_failed here
            cases (Expr.of_evaluate_failed evaluated).1
      | none =>
          cases plan with
          | oneRow => cases failed
          | scan name aliasName =>
              rw [rowsFrom, bind_eq_error] at failed
              rcases failed with scanFailed | ⟨⟨schema, batches⟩, -, later⟩
              · exact ⟨name, aliasName, mem_operators_self _, scanFailed⟩
              · rw [bind_eq_error] at later
                rcases later with readFailed | ⟨_, -, impossible⟩
                · exact absurd readFailed (Batch.readStored_ownFault _).ne_failed
                · cases impossible
          | _ => cases isInput

theorem of_executeFrom_null_failed {source : TableSource} {plan : Plan}
    {function message : String} {row : Option Nat}
    (failed : plan.executeFrom source .null = .error (.functionFailed function row message)) :
    ∃ name aliasName, .scan name aliasName ∈ plan.operators ∧
      source.scan name aliasName = .error (.functionFailed function row message) := by
  rw [executeFrom_eq_executeRows] at failed
  exact of_rowsFrom_null_failed (map_eq_error.mp failed)

/-- **The `NULL` policy only removes failures of functions.**  Over the tables of any source,
a plan that is executed under it fails as a function does only if the source does so for one
of its tables.  Whenever the plan succeeds under the policy to abort, it succeeds with the
same result; more generally, both runs end in the same way unless a function fails in the
one that aborts.  Over a catalog, a resolved plan never fails as a function does. -/
theorem execute_null (plan : Plan) :
    (∀ source function row message,
      plan.executeFrom source .null = .error (.functionFailed function row message) →
        ∃ name aliasName, .scan name aliasName ∈ plan.operators ∧
          source.scan name aliasName = .error (.functionFailed function row message)) ∧
    (∀ source result, plan.executeFrom source .abort = .ok result →
      plan.executeFrom source .null = .ok result) ∧
    (∀ source, OwnFault (plan.executeFrom source .abort) →
      plan.executeFrom source .null = plan.executeFrom source .abort) ∧
    (∀ catalog function row message, plan.executeResolved catalog .null
      ≠ .error (.functionFailed function row message)) ∧
    ∀ catalog result, plan.executeResolved catalog .abort = .ok result →
      plan.executeResolved catalog .null = .ok result := by
  refine ⟨fun source function row message => of_executeFrom_null_failed,
    fun source result => (plan.agrees_executeFrom source).eq_ok, plan.agrees_executeFrom,
    ?_, ?_⟩
  · intro catalog function row message failed
    rw [executeResolved, bind_eq_error] at failed
    rcases failed with unresolved | ⟨_, -, executed⟩
    · unfold ensureResolved at unresolved
      split at unresolved <;> cases unresolved
    · rw [execute_eq_executeFrom] at executed
      obtain ⟨name, aliasName, -, scanFailed⟩ := of_executeFrom_null_failed executed
      exact absurd scanFailed (catalog.scan_ownFault name aliasName).ne_failed
  · intro catalog result succeeded
    have agrees : AgreesUnlessFailed (plan.executeResolved catalog .abort)
        (plan.executeResolved catalog .null) := by
      simp only [executeResolved, execute_eq_executeFrom]
      exact (AgreesUnlessFailed.refl _).bind fun _ => plan.agrees_executeFrom catalog.source
    exact agrees.eq_ok succeeded

/-- A function fails on the number 3, inside the predicate of a filter: over a table without
that number both policies keep the same rows, and over a table with it only the policy to
abort fails. -/
theorem execute_null_of_failure :
    let f : Callable := .scalar {
      signature := { name := "f", parameters := [.int], returnType := .int, arity := .fixed 1 }
      nullable := [false]
      deterministic := true
      body := fun
        | [.int number] => if number.val = 3 then .failure "three" else .value (.int number)
        | _ => .panic none }
    let plan : Plan := .filter (.isNotNull (.invocation ⟨0, f⟩ [.column "n"])) (.scan "t" none)
    let catalog : List Int → Catalog := fun numbers =>
      { tables := [("t", {
          columns := [⟨"n", .int⟩]
          batches := [{
            columns := [("n", .int32)], rows := numbers.map fun number => [.number number] }] })] }
    let result : QueryResult := {
      columns := [⟨"n", .int⟩]
      rows := [[.int (.wrap 1)], [.int (.wrap 2)]] }
    plan.executeResolved (catalog [1, 2]) .abort = .ok result ∧
      plan.executeResolved (catalog [1, 2]) .null = .ok result ∧
      plan.executeResolved (catalog [1, 3, 2]) .abort
        = .error (.functionFailed "f" (some 1) "three") ∧
      plan.executeResolved (catalog [1, 3, 2]) .null = .ok result := by
  intro f plan catalog result
  obtain ⟨-, -, -, -, same⟩ := plan.execute_null
  have succeeded : plan.executeResolved (catalog [1, 2]) .abort = .ok result := rfl
  exact ⟨succeeded, same _ _ succeeded, rfl, rfl⟩

end Plan

end ScalarSql
