import ScalarSql.Plan.Rewrite
import ScalarSql.Proofs.Expr.Agreement
import ScalarSql.Proofs.Plan.Operators
import ScalarSql.Proofs.Plan.Soundness

/-!
# Rewriting typed plans

A pass over the rewriting rules maps every expression of a plan and drops filters that are
literally true.  `Expr.Rewriter` says what a map on expressions must keep for this: types,
columns, and indifference to the numbers of invocations.  Folding and normalizing do.

**One pass.**  A pass keeps the columns of a typed plan, `Plan.HasSchema.optimize`, and a
second pass changes nothing, `Plan.optimize_optimize`.

**Dropping filters.**  Every operator numbers the rows that it hands on by their position,
so that a filter that keeps all rows hands on what comes in, and dropping it changes no
result and no error, `Plan.runFrom_dropTrueFilters`.
-/

set_option autoImplicit false

namespace ScalarSql

/-! ## Rewriters -/

/-- A map on expressions that keeps types, adds no columns, leaves columns alone and does
not look at the numbers of invocations. -/
structure Expr.Rewriter (f : Expr → Expr) : Prop where
  hasType : ∀ {schema : Schema} {expr : Expr} {type : DataType},
    HasType schema expr type → HasType schema (f expr) type
  columnNames : ∀ expr, (f expr).columnNames ⊆ expr.columnNames
  column : ∀ name, f (.column name) = .column name
  eraseIds : ∀ expr, (f expr).eraseIds = f expr.eraseIds

namespace Expr

theorem rewriter_id : Rewriter id where
  hasType typed := typed
  columnNames _ := List.Subset.refl _
  column _ := rfl
  eraseIds _ := rfl

theorem rewriter_fold : Rewriter fold where
  hasType typed := typed.fold
  columnNames := columnNames_fold_subset
  column _ := rfl
  eraseIds := eraseIds_fold

theorem rewriter_normalize : Rewriter normalize where
  hasType typed := typed.normalize
  columnNames := columnNames_normalize_subset
  column _ := rfl
  eraseIds := eraseIds_normalize

theorem Rewriter.comp {f g : Expr → Expr} (outer : Rewriter f) (inner : Rewriter g) :
    Rewriter (f ∘ g) where
  hasType typed := outer.hasType (inner.hasType typed)
  columnNames expr := List.Subset.trans (outer.columnNames (g expr)) (inner.columnNames expr)
  column name := by rw [Function.comp_apply, inner.column, outer.column]
  eraseIds expr := by rw [Function.comp_apply, Function.comp_apply, outer.eraseIds, inner.eraseIds]

/-- Rewriting keeps expressions alike. -/
theorem Alike.map {f : Expr → Expr} (rewriter : Rewriter f) {wanted : String → Prop}
    {left right : Expr} (alike : Alike wanted left right) : Alike wanted (f left) (f right) where
  erased := by rw [rewriter.eraseIds, alike.erased, rewriter.eraseIds]
  named name member := alike.named name (rewriter.columnNames left member)

/-- What one pass does to an expression. -/
def settled (expr : Expr) : Expr := expr.fold.normalize

theorem rewriter_settled : Rewriter settled := rewriter_normalize.comp rewriter_fold

theorem settled_settled (expr : Expr) : expr.settled.settled = expr.settled := by
  rw [settled, settled, fold_normalize_fold, normalize_normalize]

end Expr

/-! ## Types -/

section Columns

variable {schema : Schema} {f : Expr → Expr}

theorem NamedExpr.hasColumns_map (rewriter : Expr.Rewriter f) {items : List NamedExpr}
    {columns : List Column} (typed : List.Forall₂ (NamedExpr.HasColumn schema) items columns) :
    List.Forall₂ (NamedExpr.HasColumn schema)
      (items.map fun item => { item with expr := f item.expr }) columns :=
  List.forall₂_map_left_iff.mpr
    (typed.imp fun _ _ found => ⟨found.1, rewriter.hasType found.2⟩)

theorem Aggregate.hasColumns_map (rewriter : Expr.Rewriter f) {aggregates : List Aggregate}
    {columns : List Column}
    (typed : List.Forall₂ (Aggregate.HasColumn schema) aggregates columns) :
    List.Forall₂ (Aggregate.HasColumn schema)
      (aggregates.map fun aggregate => { aggregate with expr := f aggregate.expr }) columns :=
  List.forall₂_map_left_iff.mpr (typed.imp fun _ _ ⟨named, type, typed, output⟩ =>
    ⟨named, type, rewriter.hasType typed, output⟩)

end Columns

namespace Plan

variable {catalog : Catalog} {schema : Schema}

/-- Rewriting expressions keeps the columns of a plan. -/
theorem HasSchema.mapExprs {f : Expr → Expr} (rewriter : Expr.Rewriter f) {plan : Plan}
    (typed : HasSchema catalog plan schema) : HasSchema catalog (plan.mapExprs f) schema := by
  induction typed with
  | oneRow => exact .oneRow
  | scan stored => exact .scan stored
  | filter _ typed accepted ih => exact .filter ih (rewriter.hasType typed) accepted
  | project _ typed empty ih =>
      exact .project ih (NamedExpr.hasColumns_map rewriter typed) fun none =>
        empty (List.map_eq_nil_iff.mp none)
  | aggregate _ keysTyped aggregatesTyped ih =>
      exact .aggregate ih (NamedExpr.hasColumns_map rewriter keysTyped)
        (Aggregate.hasColumns_map rewriter aggregatesTyped)
  | sort _ typed ih =>
      exact .sort ih (List.forall_mem_map.mpr fun key member =>
        (typed key member).imp fun _ found => rewriter.hasType found)
  | limit _ ih => exact .limit ih

/-- Dropping filters keeps the columns of a plan. -/
theorem HasSchema.dropTrueFilters {plan : Plan} (typed : HasSchema catalog plan schema) :
    HasSchema catalog plan.dropTrueFilters schema := by
  induction typed with
  | oneRow => exact .oneRow
  | scan stored => exact .scan stored
  | filter _ typed accepted ih =>
      unfold Plan.dropTrueFilters
      split
      · exact ih
      · exact .filter ih typed accepted
  | project _ typed empty ih => exact .project ih typed empty
  | aggregate _ keysTyped aggregatesTyped ih => exact .aggregate ih keysTyped aggregatesTyped
  | sort _ typed ih => exact .sort ih typed
  | limit _ ih => exact .limit ih

/-! ## One pass is enough -/

theorem mapExprs_mapExprs (f g : Expr → Expr) (plan : Plan) :
    (plan.mapExprs f).mapExprs g = plan.mapExprs (g ∘ f) := by
  induction plan <;> simp_all [mapExprs, Function.comp_def]

theorem mapExprs_id (plan : Plan) : plan.mapExprs id = plan := by
  induction plan <;> simp_all [mapExprs]

/-- A filter that is not literally true stays. -/
theorem dropTrueFilters_filter {predicate : Expr}
    (notTrue : predicate ≠ .literal (.boolean true)) (input : Plan) :
    (Plan.filter predicate input).dropTrueFilters = .filter predicate input.dropTrueFilters := by
  rw [dropTrueFilters.eq_def]
  dsimp only
  split
  · exact absurd rfl notTrue
  · rfl

/-- Filters can be dropped before or after a rewriting that gives no new true literal. -/
theorem mapExprs_dropTrueFilters {f : Expr → Expr}
    (literal : ∀ expr value, f expr = .literal value ↔ expr = .literal value) (plan : Plan) :
    plan.dropTrueFilters.mapExprs f = (plan.mapExprs f).dropTrueFilters := by
  induction plan with
  | filter predicate input ih =>
      by_cases isTrue : predicate = .literal (.boolean true)
      · subst isTrue
        simp only [mapExprs, (literal _ _).mpr rfl, dropTrueFilters, ih]
      · have notTrue : f predicate ≠ .literal (.boolean true) := fun same =>
          isTrue ((literal predicate _).mp same)
        rw [mapExprs, dropTrueFilters_filter isTrue, dropTrueFilters_filter notTrue, mapExprs, ih]
  | _ => simp_all [mapExprs, dropTrueFilters]

/-- A pass rewrites every expression and then drops filters. -/
theorem optimize_eq (plan : Plan) :
    plan.optimize = (plan.mapExprs Expr.settled).dropTrueFilters := by
  have pass : plan.optimize = (plan.mapExprs Expr.fold).dropTrueFilters.mapExprs Expr.normalize :=
    rfl
  rw [pass, mapExprs_dropTrueFilters fun _ _ => Expr.normalize_eq_literal, mapExprs_mapExprs]
  rfl

/-- **A pass keeps the columns of a typed plan.** -/
theorem HasSchema.optimize {plan : Plan} (typed : HasSchema catalog plan schema) :
    HasSchema catalog plan.optimize schema := by
  rw [optimize_eq]
  exact (typed.mapExprs Expr.rewriter_settled).dropTrueFilters

/-- **A second pass changes nothing.** -/
theorem optimize_optimize (plan : Plan) : plan.optimize.optimize = plan.optimize := by
  rw [optimize_eq, optimize_eq]
  induction plan with
  | filter predicate input ih =>
      by_cases isTrue : predicate.settled = .literal (.boolean true)
      · simp only [mapExprs, isTrue, dropTrueFilters, ih]
      · simp only [mapExprs, dropTrueFilters_filter isTrue, Expr.settled_settled, ih]
  | project columns input ih =>
      simp [mapExprs, dropTrueFilters, ih, Expr.settled_settled, Function.comp_def]
  | aggregate keys aggregates input ih =>
      simp [mapExprs, dropTrueFilters, ih, Expr.settled_settled, Function.comp_def]
  | sort keys input ih =>
      simp [mapExprs, dropTrueFilters, ih, Expr.settled_settled, Function.comp_def]
  | limit count offset input ih => simp only [mapExprs, dropTrueFilters, ih]
  | _ => rfl

end Plan

/-! ## Dropping filters -/

namespace RowRun

/-- Every run stands at the number of rows before it. -/
def Numbered (runs : List RowRun) : Prop := runs = number 0 (runs.map rows)

theorem map_rows_number (offset : Nat) (lists : List (List Row)) :
    (number offset lists).map rows = lists := by
  induction lists generalizing offset with
  | nil => rfl
  | cons first rest ih => rw [number, List.map_cons, ih]

theorem numbered_number (lists : List (List Row)) : Numbered (number 0 lists) := by
  rw [Numbered, map_rows_number]

/-- Replacing rows one by one keeps the positions of runs. -/
theorem number_of_mapEach {f : RowRun → Except Error RowRun} {offset : Nat}
    (aligned : ∀ run result, f run = .ok result →
      result.offset = run.offset ∧ result.rows.length = run.rows.length)
    {runs results : List RowRun} (numbered : runs = number offset (runs.map rows))
    (mapped : mapEach f runs = .ok results) : results = number offset (results.map rows) := by
  have pairs := forall₂_of_mapEach mapped
  clear mapped
  induction pairs generalizing offset with
  | nil => rfl
  | @cons run result _ _ first _ ih =>
      obtain ⟨sameOffset, sameLength⟩ := aligned run result first
      rw [List.map_cons, number, List.cons.injEq] at numbered
      have here : run.offset = offset := congrArg RowRun.offset numbered.1
      have later := ih numbered.2
      rw [List.map_cons, number, List.cons.injEq, sameLength]
      exact ⟨by rw [← here, ← sameOffset], later⟩

/-- A computation that hands on the rows of every run hands on all of them. -/
theorem mapEach_rows {f : RowRun → Except Error (List Row)}
    (same : ∀ run : RowRun, f run = .ok run.rows) (runs : List RowRun) :
    mapEach f runs = .ok (runs.map rows) := by
  induction runs with
  | nil => rfl
  | cons run rest ih =>
      simp only [mapEach, same, ih]
      rfl

end RowRun

/-- A predicate that is literally true keeps all rows. -/
theorem filterRows_true (schema : Schema) (policy : FailurePolicy) (index : Nat)
    (rows : List Row) :
    filterRows schema policy (.literal (.boolean true)) index rows = .ok rows := by
  induction rows generalizing index with
  | nil => rfl
  | cons row rest ih =>
      simp only [filterRows, Expr.holds, Expr.evaluate, ih]
      rfl

namespace Plan

variable {source : TableSource} {catalog : Catalog} {policy : FailurePolicy}

/-- An operator numbers what it makes of numbered runs. -/
theorem numbered_of_operate {plan : Plan} {schema : Schema} {runs : List RowRun}
    {result : Schema × List RowRun} (numbered : RowRun.Numbered runs)
    (operated : operate policy schema runs plan = .ok result) : RowRun.Numbered result.2 := by
  cases plan with
  | oneRow | scan name aliasName =>
      cases operated
      exact numbered
  | filter predicate input =>
      simp only [operate, bind_eq_ok] at operated
      obtain ⟨_, _, made⟩ := operated
      cases made
      exact RowRun.numbered_number _
  | sort keys input =>
      simp only [operate, bind_eq_ok] at operated
      obtain ⟨_, _, _, _, made⟩ := operated
      cases made
      exact RowRun.numbered_number _
  | project items input =>
      simp only [operate, bind_eq_ok] at operated
      obtain ⟨_, _, _, mapped, made⟩ := operated
      cases made
      refine RowRun.number_of_mapEach (fun run result projected => ?_) numbered mapped
      obtain ⟨rows, rowsProjected, rfl⟩ := map_eq_ok.mp projected
      exact ⟨rfl, (forall₂_of_projectRows rowsProjected).length_eq.symm⟩
  | aggregate keys aggregates input =>
      simp only [operate, bind_eq_ok] at operated
      obtain ⟨_, _, _, _, _, _, made⟩ := operated
      cases made
      exact RowRun.numbered_number _
  | limit count offset input =>
      cases operated
      exact RowRun.numbered_number _

/-- **The runs of a plan stand at their positions.** -/
theorem numbered_of_runFrom {plan : Plan} {result : Schema × List RowRun}
    (ran : plan.runFrom source policy = .ok result) : RowRun.Numbered result.2 := by
  induction plan using inductionOnInput generalizing result with
  | step plan ih =>
      cases isInput : plan.input? with
      | some input =>
          rw [runFrom_of_input isInput, bind_eq_ok] at ran
          obtain ⟨_, innerRan, operated⟩ := ran
          exact numbered_of_operate (ih input isInput innerRan) operated
      | none =>
          cases plan with
          | oneRow =>
              cases ran
              rfl
          | scan name aliasName =>
              simp only [runFrom, bind_eq_ok] at ran
              obtain ⟨_, _, _, _, made⟩ := ran
              cases made
              exact RowRun.numbered_number _
          | _ => cases isInput

/-- A filter that is literally true hands on numbered runs. -/
theorem operate_filter_true (schema : Schema) {runs : List RowRun} (input : Plan)
    (numbered : RowRun.Numbered runs) :
    operate policy schema runs (.filter (.literal (.boolean true)) input)
      = .ok (schema, runs) := by
  have kept := RowRun.mapEach_rows
    (fun run => filterRows_true schema policy run.offset run.rows) runs
  simp only [operate, bind, Except.bind, kept]
  rw [← numbered]

theorem runFrom_filter_true (input : Plan) :
    (Plan.filter (.literal (.boolean true)) input).runFrom source policy
      = input.runFrom source policy := by
  simp only [runFrom]
  cases ran : input.runFrom source policy with
  | error _ => rfl
  | ok result => exact operate_filter_true result.1 input (numbered_of_runFrom ran)

/-- **Dropping filters that are literally true changes no outcome.** -/
theorem runFrom_dropTrueFilters (plan : Plan) :
    plan.dropTrueFilters.runFrom source policy = plan.runFrom source policy := by
  induction plan with
  | oneRow => rfl
  | scan table aliasName => rfl
  | filter predicate input ih =>
      by_cases isTrue : predicate = .literal (.boolean true)
      · rw [isTrue, dropTrueFilters, ih, runFrom_filter_true]
      · rw [dropTrueFilters_filter isTrue, runFrom, runFrom, ih]
        rfl
  | project _ _ ih | aggregate _ _ _ ih | sort _ _ ih | limit _ _ _ ih =>
      simp only [dropTrueFilters, runFrom, ih]
      rfl

/-- The outcome of a plan after a pass is that of its rewritten expressions. -/
theorem run_optimize (plan : Plan) :
    plan.optimize.run catalog policy = (plan.mapExprs Expr.settled).run catalog policy := by
  rw [optimize_eq, run_eq_runFrom, run_eq_runFrom, runFrom_dropTrueFilters]

end Plan

end ScalarSql
