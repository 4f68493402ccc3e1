import ScalarSql.Session
import ScalarSql.Proofs.Plan.Rewriting

/-!
# Answering statements

A query is read and then answered: planned, analysed, settled and executed.
`Session.answer` is what follows the reading, `Session.query_eq`.

**Settling.**  Since a second pass over a typed plan changes nothing, settling is one pass,
or none if the settings allow none, `Session.settle_eq`.  An answered statement therefore
comes from one analysed plan whose expressions are rewritten once, `Session.answer_eq_ok`.
-/

set_option autoImplicit false

namespace ScalarSql

namespace Session

variable {session : Session}

/-- The result of a statement. -/
def answer (session : Session) (statement : Syntax.Statement) : Resolving QueryResult := do
  let draft ← Plan.ofStatement session.tableColumns statement
  let analyzed ← session.analyze draft
  let plan ← session.settle session.config.maxPasses analyzed
  session.execute plan

/-- **A query is read and then answered.** -/
theorem query_eq (session : Session) (sql : String) :
    session.query sql
      = (liftM (Syntax.Statement.read sql) : Resolving Syntax.Statement) >>= session.answer := by
  simp only [query, plan, draft, bind_assoc, liftM_bind]
  rfl

/-- What settling does to every expression of a plan. -/
def rewriting (session : Session) : Expr → Expr :=
  if session.config.maxPasses = 0 then id else Expr.settled

theorem rewriter_rewriting (session : Session) : Expr.Rewriter session.rewriting := by
  unfold rewriting
  split
  · exact Expr.rewriter_id
  · exact Expr.rewriter_settled

/-- Analysing a typed plan returns it. -/
theorem analyze_eq_self {plan : Plan} {schema : Schema}
    (typed : Plan.HasSchema session.catalog plan schema) (next : Nat) :
    session.analyze plan next = .ok (plan, next) :=
  typed.analyze session.scope next

/-- **Settling a typed plan is one pass.** -/
theorem settle_eq {plan : Plan} {schema : Schema}
    (typed : Plan.HasSchema session.catalog plan schema) (passes next : Nat) :
    session.settle (passes + 1) plan next = .ok (plan.optimize, next) := by
  -- Any further pass starts from an optimized plan, which optimizing returns as it is.
  induction passes generalizing plan with
  | zero =>
      simp only [settle, state_bind_eq_ok]
      refine ⟨_, next, analyze_eq_self typed.optimize next, ?_⟩
      split <;> rfl
  | succ passes ih =>
      rw [settle, state_bind_eq_ok]
      refine ⟨_, next, analyze_eq_self typed.optimize next, ?_⟩
      split
      · rfl
      · rw [ih typed.optimize, Plan.optimize_optimize]

/-- Executing a settled plan is executing the plan with its expressions rewritten. -/
theorem execute_of_settle {plan : Plan} {schema : Schema} {next : Nat} {outcome : Plan × Nat}
    (typed : Plan.HasSchema session.catalog plan schema)
    (result : session.settle session.config.maxPasses plan next = .ok outcome) :
    session.execute outcome.1
      = (plan.mapExprs session.rewriting).execute session.catalog session.config.onError := by
  have settled : Plan.HasSchema session.catalog outcome.1 schema ∧
      ∀ policy, outcome.1.run session.catalog policy
        = (plan.mapExprs session.rewriting).run session.catalog policy := by
    unfold rewriting
    cases allowed : session.config.maxPasses with
    | zero =>
        rw [allowed, settle, state_pure_eq_ok] at result
        cases result
        exact ⟨typed, fun policy => by rw [if_pos rfl, Plan.mapExprs_id]⟩
    | succ passes =>
        rw [allowed, settle_eq typed] at result
        cases result
        exact ⟨typed.optimize, fun policy => by
          rw [if_neg (Nat.succ_ne_zero passes), Plan.run_optimize]⟩
  simp only [execute, Plan.executeResolved, settled.1.ensureResolved, Plan.execute, settled.2]
  rfl

/-- **An answered statement** is planned and analysed, and its plan is executed with the
expressions rewritten. -/
theorem answer_eq_ok {statement : Syntax.Statement} {next : Nat} {outcome : QueryResult × Nat}
    (answered : session.answer statement next = .ok outcome) :
    ∃ draft analyzed schema after,
      Plan.ofStatement session.tableColumns statement = .ok draft ∧
      draft.analyzeNode session.scope session.catalog next = .ok ((analyzed, schema), after) ∧
      (analyzed.mapExprs session.rewriting).execute session.catalog session.config.onError
        = .ok outcome.1 := by
  simp only [answer, state_bind_eq_ok, state_lift_eq_ok] at answered
  obtain ⟨draft, _, ⟨planned, rfl⟩, _, _, analyzedDraft, _, _, settled, executed, -⟩ := answered
  simp only [analyze, Plan.analyze, state_bind_eq_ok, state_pure_eq_ok] at analyzedDraft
  obtain ⟨⟨analyzed, schema⟩, after, accepted, same⟩ := analyzedDraft
  cases same
  rw [execute_of_settle (Plan.hasSchema_of_analyzeNode accepted) settled] at executed
  exact ⟨draft, analyzed, schema, _, planned, accepted, executed⟩

/-! ## Running a draft -/

/-- The draft of a plan is accepted and gives columns and runs of rows, once its expressions
are rewritten. -/
def Ran (session : Session) (draft : Plan) (schema : Schema) (runs : List RowRun) : Prop :=
  ∃ next analyzed after,
    draft.analyzeNode session.scope session.catalog next = .ok ((analyzed, schema), after) ∧
    (analyzed.mapExprs session.rewriting).run session.catalog session.config.onError
      = .ok (schema, runs)

/-- An accepted draft that runs has the columns that were found for it. -/
theorem ran_of_run {draft analyzed : Plan} {schema : Schema} {next after : Nat}
    {result : Schema × List RowRun}
    (accepted : draft.analyzeNode session.scope session.catalog next
      = .ok ((analyzed, schema), after))
    (ran : (analyzed.mapExprs session.rewriting).run session.catalog session.config.onError
      = .ok result) :
    result.1 = schema ∧ session.Ran draft schema result.2 := by
  have same : result.1 = schema := ((Plan.hasSchema_of_analyzeNode accepted).mapExprs
    session.rewriter_rewriting).eq_of_run ran
  refine ⟨same, next, analyzed, after, accepted, ?_⟩
  rw [ran, ← same]

/-- **An answered statement** is a draft that runs. -/
theorem ran_of_answer {statement : Syntax.Statement} {next : Nat} {outcome : QueryResult × Nat}
    (answered : session.answer statement next = .ok outcome) :
    ∃ draft schema runs, Plan.ofStatement session.tableColumns statement = .ok draft ∧
      session.Ran draft schema runs ∧
      outcome.1 = { columns := schema.columns, rows := RowRun.flatten runs } := by
  obtain ⟨draft, analyzed, schema, after, planned, accepted, executed⟩ := answer_eq_ok answered
  simp only [Plan.execute, bind_eq_ok] at executed
  obtain ⟨result, ran, made⟩ := executed
  obtain ⟨same, ran⟩ := ran_of_run accepted ran
  refine ⟨draft, schema, result.2, planned, ran, ?_⟩
  rw [← same]
  exact (Except.ok.inj made).symm

theorem Ran.filter {predicate : Expr} {input : Plan} {schema : Schema} {runs : List RowRun}
    (ran : session.Ran (.filter predicate input) schema runs) :
    ∃ inner next resolved kept, session.Ran input schema inner ∧
      predicate.resolve session.scope schema next = .ok resolved ∧
      RowRun.mapEach (fun run => filterRows schema session.config.onError
        (session.rewriting resolved.1) run.offset run.rows) inner = .ok kept ∧
      runs = RowRun.number 0 kept := by
  obtain ⟨next, _, _, accepted, ran⟩ := ran
  simp only [Plan.analyzeNode, state_bind_eq_ok, state_pure_eq_ok] at accepted
  obtain ⟨⟨analyzed, innerSchema⟩, _, innerAccepted, _, _, predicateResult, _, _, -, _, _, -,
    same⟩ := accepted
  cases same
  simp only [Plan.mapExprs, Plan.run, bind_eq_ok] at ran
  obtain ⟨result, innerRan, kept, filtered, made⟩ := ran
  obtain ⟨rfl, innerRan⟩ := ran_of_run innerAccepted innerRan
  cases made
  exact ⟨result.2, _, _, kept, innerRan, predicateResult, filtered, rfl⟩

theorem Ran.project {columns : List NamedExpr} {input : Plan} {schema : Schema}
    {runs : List RowRun} (ran : session.Ran (.project columns input) schema runs) :
    ∃ source inner next items produced after, session.Ran input source inner ∧
      Plan.resolveNamed session.scope source
        (if columns.isEmpty then Plan.allColumns source else columns) next
          = .ok ((items, produced), after) ∧
      RowRun.mapEach (fun run => (projectRows source session.config.onError
        (items.map fun item => session.rewriting item.expr) run.offset run.rows).map
          fun rows => { run with rows }) inner = .ok runs ∧
      schema = { columns := produced } := by
  obtain ⟨next, _, _, accepted, ran⟩ := ran
  simp only [Plan.analyzeNode, state_bind_eq_ok, state_pure_eq_ok] at accepted
  obtain ⟨⟨analyzed, source⟩, between, innerAccepted, ⟨items, produced⟩, _, resolved, same⟩ :=
    accepted
  cases same
  simp only [Plan.mapExprs, Plan.run, bind_eq_ok, List.map_map] at ran
  obtain ⟨result, innerRan, _, _, projected, mapped, made⟩ := ran
  obtain ⟨rfl, innerRan⟩ := ran_of_run innerAccepted innerRan
  cases made
  exact ⟨_, result.2, between, items, produced, _, innerRan, resolved, mapped, rfl⟩

theorem Ran.sort {keys : List SortKey} {input : Plan} {schema : Schema} {runs : List RowRun}
    (ran : session.Ran (.sort keys input) schema runs) :
    ∃ inner, session.Ran input schema inner ∧
      (RowRun.flatten runs).Perm (RowRun.flatten inner) := by
  obtain ⟨next, _, _, accepted, ran⟩ := ran
  simp only [Plan.analyzeNode, state_bind_eq_ok, state_pure_eq_ok] at accepted
  obtain ⟨⟨analyzed, innerSchema⟩, _, innerAccepted, _, _, -, same⟩ := accepted
  cases same
  simp only [Plan.mapExprs, Plan.run, bind_eq_ok] at ran
  obtain ⟨result, innerRan, values, projected, sorted, sorts, made⟩ := ran
  obtain ⟨rfl, innerRan⟩ := ran_of_run innerAccepted innerRan
  cases made
  refine ⟨result.2, innerRan, ?_⟩
  simpa [RowRun.flatten, RowRun.number] using
    SortKey.sortRows_perm (forall₂_of_projectRows projected).length_eq.symm sorts

theorem Ran.aggregate {keys : List NamedExpr} {aggregates : List Aggregate} {input : Plan}
    {schema : Schema} {runs : List RowRun}
    (ran : session.Ran (.aggregate keys aggregates input) schema runs) :
    ∃ source inner next items produced between computed outputs after paired rows,
      session.Ran input source inner ∧
      Plan.resolveNamed session.scope source keys next = .ok ((items, produced), between) ∧
      Plan.resolveAggregates session.scope source aggregates between
        = .ok ((computed, outputs), after) ∧
      TypedAggregate.ofAggregates source (computed.map fun aggregate =>
        { aggregate with expr := session.rewriting aggregate.expr }) = .ok paired ∧
      groupRows source session.config.onError (items.map fun item => session.rewriting item.expr)
        paired (RowRun.flatten inner) = .ok rows ∧
      runs = RowRun.number 0 [rows] ∧ schema = { columns := produced ++ outputs } := by
  obtain ⟨next, _, _, accepted, ran⟩ := ran
  simp only [Plan.analyzeNode, state_bind_eq_ok, state_pure_eq_ok] at accepted
  obtain ⟨⟨analyzed, source⟩, start, innerAccepted, ⟨items, produced⟩, between, keysResolved,
    ⟨computed, outputs⟩, _, resolved, same⟩ := accepted
  cases same
  simp only [Plan.mapExprs, Plan.run, bind_eq_ok, List.map_map] at ran
  obtain ⟨result, innerRan, _, _, paired, made, rows, grouped, same⟩ := ran
  obtain ⟨rfl, innerRan⟩ := ran_of_run innerAccepted innerRan
  have runsEq := congrArg Prod.snd (Except.ok.inj same)
  exact ⟨_, result.2, start, items, produced, between, computed, outputs, _, paired, rows,
    innerRan, keysResolved, resolved, made, grouped, runsEq.symm, rfl⟩

end Session

end ScalarSql
