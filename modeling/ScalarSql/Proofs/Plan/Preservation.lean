import ScalarSql.Proofs.Expr.Normalization
import ScalarSql.Proofs.Plan.Rewriting

/-!
# The rewriting rules keep what plans compute

**Folding** preserves execution for every plan, whether or not it was ever analysed: the
columns, the rows and the errors, each tied to the same row, are those of the plan before,
`Plan.execute_folding`.  Nothing is asked of the functions, which folding leaves alone, nor
of the tables.  Both executions report the first run that fails, in the order of the runs and
not in that of time.

**Normalizing** an analysed plan keeps the type of every expression.  It preserves execution
over every source that has the columns the plan was analysed with, as long as no sum changes
the places of two zeros that differ as decimals, `Plan.analyze_normalization`.  Where one
does, the rewritten plan can show the other zero, and the example at the end does.
-/

set_option autoImplicit false

namespace ScalarSql

namespace Plan

variable {source : TableSource} {policy : FailurePolicy}

/-! ## Folding -/

/-- Folding changes neither the type nor the outcome of an expression over any rows. -/
theorem fold_sameOver (schema : Schema) (policy : FailurePolicy) (rows : List Row)
    (expr : Expr) : Expr.SameOver schema policy rows expr.fold expr :=
  ⟨expr.dataType_fold schema, fun _ _ _ => expr.evaluate_fold _⟩

theorem runFrom_folding (plan : Plan) :
    (plan.applyRule .folding).runFrom source policy = plan.runFrom source policy := by
  rw [applyRule, runFrom_dropTrueFilters]
  exact runFrom_mapExprs fun _ _ schema runs _ expr _ => fold_sameOver schema policy _ expr

theorem exprs_mapExprs (f : Expr → Expr) (plan : Plan) :
    (plan.mapExprs f).exprs = plan.exprs.map f := by
  induction plan <;> simp_all [mapExprs, exprs, ownExprs, Function.comp_def]

theorem unresolvedCall?_mapExprs {f : Expr → Expr}
    (same : ∀ expr, (f expr).unresolvedCall? = expr.unresolvedCall?) (plan : Plan) :
    (plan.mapExprs f).unresolvedCall? = plan.unresolvedCall? := by
  have calls : Expr.unresolvedCall? ∘ f = Expr.unresolvedCall? := funext same
  rw [unresolvedCall?, unresolvedCall?, exprs_mapExprs, List.findSome?_map, calls]

/-- A filter that is literally true has no call in it. -/
theorem unresolvedCall?_dropTrueFilters (plan : Plan) :
    plan.dropTrueFilters.unresolvedCall? = plan.unresolvedCall? := by
  simp only [unresolvedCall?]
  induction plan with
  | oneRow => rfl
  | scan name aliasName => rfl
  | filter predicate input ih =>
      by_cases isTrue : predicate = .literal (.boolean true)
      · rw [isTrue, dropTrueFilters, ih]
        rfl
      · simp only [dropTrueFilters_filter isTrue, exprs, ownExprs, List.findSome?_append, ih]
  | project _ _ ih | aggregate _ _ _ ih | sort _ _ ih =>
      simp only [dropTrueFilters, exprs, ownExprs, List.findSome?_append, ih]
  | limit count offset input ih => exact ih

/-- **Folding preserves execution.**  Any plan has, after folding, the same columns and rows
over every source of tables, or fails with the same error for the same row.  It is refused
for the same unresolved call.

Where several runs fail, both plans report the first one that does (`RowRun.mapEach`). -/
theorem execute_folding (plan : Plan) (policy : FailurePolicy) :
    (∀ source : TableSource,
      (plan.applyRule .folding).executeFrom source policy = plan.executeFrom source policy) ∧
    ∀ catalog : Catalog,
      (plan.applyRule .folding).execute catalog policy = plan.execute catalog policy ∧
      (plan.applyRule .folding).executeResolved catalog policy
        = plan.executeResolved catalog policy := by
  have outcome : ∀ source : TableSource,
      (plan.applyRule .folding).executeFrom source policy = plan.executeFrom source policy := by
    intro source
    rw [executeFrom, executeFrom, runFrom_folding]
  have resolved : (plan.applyRule .folding).ensureResolved = plan.ensureResolved := by
    rw [ensureResolved, ensureResolved, applyRule, unresolvedCall?_dropTrueFilters,
      unresolvedCall?_mapExprs Expr.unresolvedCall?_fold]
  refine ⟨outcome, fun catalog => ?_⟩
  have executed : (plan.applyRule .folding).execute catalog policy
      = plan.execute catalog policy := by
    rw [execute_eq_executeFrom, execute_eq_executeFrom, outcome]
  exact ⟨executed, by rw [executeResolved, executeResolved, resolved, executed]⟩

/-! ## Normalizing -/

/-- On some row that an operator of the plan receives, a part of one of its expressions
swaps zeros. -/
def SwapsZeros (source : TableSource) (policy : FailurePolicy) (plan : Plan) : Prop :=
  ∃ operator ∈ plan.operators, ∃ schema runs, operator.Receives source policy schema runs ∧
    ∃ expr ∈ operator.ownExprs, ∃ row ∈ RowRun.flatten runs, ∃ index, ∃ part ∈ expr.parts,
      part.swapsZeros { schema, policy, row, index } = true

/-- What an operator of a typed plan receives has the columns over which its expressions are
typed. -/
theorem HasSchema.typed_of_receives {catalog : Catalog} {plan : Plan} {produced : Schema}
    (typed : HasSchema catalog plan produced) (serves : source.Serves catalog)
    {operator : Plan} (member : operator ∈ plan.operators) {schema : Schema}
    {runs : List RowRun} (receives : operator.Receives source policy schema runs) :
    ∀ expr ∈ operator.ownExprs, Expr.Typed schema expr := by
  obtain ⟨input, isInput, ran⟩ := receives
  obtain ⟨below, inputTyped, ownTyped⟩ := typed.operators_typed operator member input isInput
  obtain rfl : schema = below := inputTyped.eq_of_runFrom serves ran
  exact ownTyped

theorem HasSchema.runFrom_normalization {catalog : Catalog} {plan : Plan} {produced : Schema}
    (typed : HasSchema catalog plan produced) (serves : source.Serves catalog)
    (apart : ¬ plan.SwapsZeros source policy) :
    (plan.applyRule .normalization).runFrom source policy = plan.runFrom source policy := by
  refine runFrom_mapExprs fun operator member schema runs receives expr own => ?_
  obtain ⟨type, exprTyped⟩ := typed.typed_of_receives serves member receives expr own
  refine ⟨by rw [exprTyped.normalize.dataType, exprTyped.dataType], fun row inRuns index => ?_⟩
  refine exprTyped.evaluate_normalize fun part inExpr => Bool.eq_false_iff.mpr fun swaps => ?_
  exact apart
    ⟨operator, member, schema, runs, receives, expr, own, row, inRuns, index, part, inExpr, swaps⟩

/-- **Normalizing an analysed plan** keeps the type of every expression over the columns that
its operator receives.  Over every source with the columns of the catalog, the rewritten
plan has the same columns and rows or fails with the same error, unless two zeros that are
apart change places in a sum.

Where several runs fail, both plans report the first one that does (`RowRun.mapEach`). -/
theorem analyze_normalization (scope : FunctionScope) (catalog : Catalog)
    (plan analyzed : Plan) (next after : Nat)
    (result : plan.analyze scope catalog next = .ok (analyzed, after)) :
    (∀ operator ∈ analyzed.operators, ∀ input, operator.input? = some input →
      ∃ schema, (∀ start, input.schemaOf scope catalog start = .ok (schema, start)) ∧
        ∀ expr ∈ operator.ownExprs, ∃ type, expr.dataType schema = .ok type ∧
          expr.normalize.dataType schema = .ok type) ∧
    ∀ (source : TableSource) (policy : FailurePolicy), source.Serves catalog →
      ¬ analyzed.SwapsZeros source policy →
        (analyzed.applyRule .normalization).executeFrom source policy
          = analyzed.executeFrom source policy := by
  simp only [analyze, state_bind_eq_ok, state_pure_eq_ok] at result
  obtain ⟨⟨inner, produced⟩, _, accepted, same⟩ := result
  cases same
  have typed := hasSchema_of_analyzeNode accepted
  constructor
  · intro operator member input isInput
    obtain ⟨below, inputTyped, ownTyped⟩ := typed.operators_typed operator member input isInput
    refine ⟨below, fun start => inputTyped.schemaOf scope start, fun expr own => ?_⟩
    obtain ⟨type, exprTyped⟩ := ownTyped expr own
    exact ⟨type, exprTyped.dataType, exprTyped.normalize.dataType⟩
  · intro source policy serves apart
    rw [executeFrom, executeFrom, typed.runFrom_normalization serves apart]

/-- The sum `0.00 + d` over a stored table in which `d` is `1.5`: the literal moves to the
right, no zeros change places, and the result is the same. -/
theorem analyze_normalization_of_sum :
    let batch : Batch := { columns := [("d", .decimal128 10 1)], rows := [[.number 15]] }
    let catalog : Catalog :=
      { tables := [("t", { columns := [⟨"d", .decimal⟩], batches := [batch] })] }
    let scope : FunctionScope := { registered := {}, builtin := {}, narrowing := .exact }
    let zero : Expr := .literal (.decimal ⟨false, 0, 2, by decide, by decide⟩)
    let plan : Plan :=
      .project [⟨.binary (.arithmetic .add) zero (.column "d"), "s"⟩] (.scan "t" none)
    plan.analyze scope catalog 0 = .ok (plan, 0) ∧
      plan.applyRule .normalization
        = .project [⟨.binary (.arithmetic .add) (.column "d") zero, "s"⟩] (.scan "t" none) ∧
      ¬ plan.SwapsZeros catalog.source .abort ∧
      (plan.applyRule .normalization).executeFrom catalog.source .abort
        = plan.executeFrom catalog.source .abort := by
  intro batch catalog scope zero plan
  have apart : ¬ plan.SwapsZeros catalog.source .abort := by
    rintro ⟨operator, member, schema, runs, ⟨input, isInput, ran⟩, expr, own, row, inRuns, index,
      part, inExpr, swaps⟩
    rcases List.mem_cons.mp member with rfl | below
    · cases isInput
      cases ran
      cases List.mem_singleton.mp own
      cases List.mem_singleton.mp inRuns
      -- The parts are the sum, the literal and the column.
      rcases List.mem_cons.mp inExpr with rfl | inOperands
      · cases swaps
      · rcases List.mem_cons.mp inOperands with rfl | inColumn
        · cases swaps
        · cases List.mem_singleton.mp inColumn
          cases swaps
    · cases List.mem_singleton.mp below
      cases isInput
  exact ⟨rfl, rfl, apart, (analyze_normalization scope catalog plan plan 0 0 rfl).2 _ .abort
    catalog.source_serves apart⟩

/-- Where `d` is `0.0`, the sum `0.00 + d` is `0.0`, and after normalizing it is `0.00`. -/
example :
    let source : TableSource := ⟨fun _ _ => .ok ({ columns := [⟨"d", .decimal⟩] },
      [{ columns := [("d", .decimal128 10 1)], rows := [[.number 0]] }])⟩
    let zero : Expr := .literal (.decimal ⟨false, 0, 2, by decide, by decide⟩)
    let plan : Plan :=
      .project [⟨.binary (.arithmetic .add) zero (.column "d"), "s"⟩] (.scan "t" none)
    let texts := fun result : QueryResult => result.rows.map (List.map Value.text)
    (plan.executeFrom source .abort).map texts = .ok [["0.0"]] ∧
      ((plan.applyRule .normalization).executeFrom source .abort).map texts = .ok [["0.00"]] :=
  ⟨rfl, rfl⟩

end Plan

end ScalarSql
