import ScalarSql.Proofs.Plan.Rewriting

/-!
# Plans over one list of rows

A plan is executed over runs of rows, one for each stored batch, and every run carries its
position.  Here the same plan is executed over one list of rows: `Plan.operateRows` is what
one operator makes of all rows that come in, each with its zero-based position among them,
and `Plan.rowsFrom` is the whole plan.

**In pieces or at once.**  A computation that goes through rows one after the other gives
the same on consecutive runs as on all their rows, `Sequential.mapEach_number`.

**Runs and rows.**  As the runs of a plan stand at their positions, every operator makes the
same rows of the runs as of all rows, or fails with the same error,
`Plan.operate_flatten`.  So does the whole plan, `Plan.executeFrom_eq_executeRows`.
-/

set_option autoImplicit false

namespace ScalarSql

/-! ## One list of rows -/

namespace Batch

/-- The stored rows of several batches in order, each with the columns it stands under. -/
def storedRows (batches : List Batch) : List (List (String × ColumnType) × List Cell) :=
  batches.flatMap fun batch => batch.rows.map fun cells => (batch.columns, cells)

end Batch

/-- The results of a computation on every row and its position, in order; `index` is the
position of the first row. -/
def mapRows {α : Type} (f : Row → Nat → Except Error α) (index : Nat) (rows : List Row) :
    Except Error (List α) :=
  (rows.zipIdx index).mapM fun placed => f placed.1 placed.2

/-- The rows for which there is a true mark. -/
def markedRows (rows : List Row) (marks : List Bool) : List Row :=
  ((rows.zip marks).filter Prod.snd).map Prod.fst

namespace Plan

/-- What the outermost operator makes of the columns and all rows that come in. -/
def operateRows (policy : FailurePolicy) (schema : Schema) (rows : List Row) :
    Plan → Except Error (Schema × List Row)
  | .oneRow | .scan .. => .ok (schema, rows)
  | .filter predicate _ => do
      let marks ← mapRows
        (fun row index => predicate.holds { schema, policy, row, index }) 0 rows
      .ok (schema, markedRows rows marks)
  | .project items _ => do
      let columns ← NamedExpr.columns schema items
      let projected ← mapRows (fun row index =>
        Expr.evaluateAll { schema, policy, row, index } (items.map NamedExpr.expr)) 0 rows
      .ok ({ columns }, projected)
  | .aggregate keys aggregates _ => do
      let keyColumns ← NamedExpr.columns schema keys
      let typed ← TypedAggregate.ofAggregates schema aggregates
      let grouped ← groupRows schema policy (keys.map NamedExpr.expr) typed rows
      .ok ({ columns := keyColumns ++ typed.map TypedAggregate.column }, grouped)
  | .sort keys _ => do
      let values ← mapRows (fun row index =>
        Expr.evaluateAll { schema, policy, row, index } (keys.map SortKey.expr)) 0 rows
      let sorted ← SortKey.sortRows keys (values.zip rows)
      .ok (schema, sorted)
  | .limit count offset _ => .ok (schema, (rows.drop offset).take count)

/-- The columns and the rows that a plan produces from the tables of a source, one operator
after the other. -/
def rowsFrom (source : TableSource) (policy : FailurePolicy) :
    Plan → Except Error (Schema × List Row)
  | .oneRow => .ok ({}, [[]])
  | .scan name aliasName => do
      let (schema, batches) ← source.scan name aliasName
      let rows ← (Batch.storedRows batches).mapM fun stored => Batch.readRow stored.1 stored.2
      .ok (schema, rows)
  | .filter predicate input => do
      let (schema, rows) ← input.rowsFrom source policy
      operateRows policy schema rows (.filter predicate input)
  | .project items input => do
      let (schema, rows) ← input.rowsFrom source policy
      operateRows policy schema rows (.project items input)
  | .aggregate keys aggregates input => do
      let (schema, rows) ← input.rowsFrom source policy
      operateRows policy schema rows (.aggregate keys aggregates input)
  | .sort keys input => do
      let (schema, rows) ← input.rowsFrom source policy
      operateRows policy schema rows (.sort keys input)
  | .limit count offset input => do
      let (schema, rows) ← input.rowsFrom source policy
      operateRows policy schema rows (.limit count offset input)

/-- The result of a plan over one list of rows. -/
def executeRows (source : TableSource) (policy : FailurePolicy) (plan : Plan) :
    Except Error QueryResult :=
  (plan.rowsFrom source policy).map fun result =>
    { columns := result.1.columns, rows := result.2 }

end Plan

/-! ## Going through rows in pieces -/

section Pieces

variable {α : Type} {f : Row → Nat → Except Error α}

theorem mapRows_cons (index : Nat) (row : Row) (rest : List Row) :
    mapRows f index (row :: rest) = (do
      let here ← f row index
      let others ← mapRows f (index + 1) rest
      .ok (here :: others)) := by
  simp only [mapRows, List.zipIdx_cons, List.mapM_cons]
  rfl

/-- A computation over rows from a position on that goes through them one after the other:
what it makes of two pieces is what it makes of both together. -/
structure Sequential (g : Nat → List Row → Except Error (List α)) : Prop where
  nil : ∀ index, g index [] = .ok []
  append : ∀ index front back, g index (front ++ back) = (do
    let left ← g index front
    let right ← g (index + front.length) back
    .ok (left ++ right))

theorem sequential_mapRows (f : Row → Nat → Except Error α) : Sequential (mapRows f) where
  nil _ := rfl
  append index front back := by
    rw [mapRows, List.zipIdx_append, List.mapM_append, Nat.add_comm index]
    rfl

/-- **In pieces or at once**: the results on consecutive runs, put together, are the results
on all rows. -/
theorem Sequential.mapEach_number {g : Nat → List Row → Except Error (List α)}
    (sequential : Sequential g) (offset : Nat) (lists : List (List Row)) :
    (RowRun.mapEach (fun run => g run.offset run.rows) (RowRun.number offset lists)).map
      List.flatten = g offset lists.flatten := by
  induction lists generalizing offset with
  | nil => exact (sequential.nil offset).symm
  | cons rows rest ih =>
      have later := ih (offset + rows.length)
      rw [RowRun.number, RowRun.mapEach, List.flatten_cons, sequential.append, ← later]
      cases g offset rows with
      | error error => rfl
      | ok first =>
          cases RowRun.mapEach (fun run => g run.offset run.rows)
            (RowRun.number (offset + rows.length) rest) <;> rfl

/-- A computation that gives a function of the row, wherever the row stands, maps all rows. -/
theorem mapRows_eq_map {g : Row → α} {rows : List Row}
    (each : ∀ row ∈ rows, ∀ index, f row index = .ok (g row)) (index : Nat) :
    mapRows f index rows = .ok (rows.map g) := by
  induction rows generalizing index with
  | nil => rfl
  | cons row rest ih =>
      obtain ⟨here, later⟩ := List.forall_mem_cons.mp each
      rw [mapRows_cons, here index, ih later (index + 1)]
      rfl

/-- A computation that fails on some rows fails on one of them, at its position. -/
theorem of_mapRows_error {index : Nat} {rows : List Row} {error : Error}
    (failed : mapRows f index rows = .error error) :
    ∃ position row, rows[position]? = some row ∧ f row (index + position) = .error error := by
  induction rows generalizing index with
  | nil => cases failed
  | cons row rest ih =>
      rw [mapRows_cons, bind_eq_error] at failed
      rcases failed with here | ⟨_, -, later⟩
      · exact ⟨0, row, rfl, here⟩
      · rw [bind_eq_error] at later
        rcases later with restFailed | ⟨_, -, impossible⟩
        · obtain ⟨position, other, atPosition, found⟩ := ih restFailed
          refine ⟨position + 1, other, atPosition, ?_⟩
          rwa [Nat.add_assoc, Nat.add_comm 1] at found
        · cases impossible

end Pieces

/-! ## Filters and projections -/

section Rows

variable {schema : Schema} {policy : FailurePolicy}

/-- A filter keeps the rows that its predicate marks. -/
theorem filterRows_eq (predicate : Expr) (index : Nat) (rows : List Row) :
    filterRows schema policy predicate index rows
      = (mapRows (fun row index => predicate.holds { schema, policy, row, index }) index
          rows).map (markedRows rows) := by
  induction rows generalizing index with
  | nil => rfl
  | cons row rest ih =>
      rw [filterRows, mapRows_cons]
      cases predicate.holds { schema, policy, row, index } with
      | error error => rfl
      | ok keep =>
          simp only [ih]
          cases mapRows (fun row index => predicate.holds { schema, policy, row, index })
            (index + 1) rest with
          | error error => rfl
          | ok marks => cases keep <;> rfl

theorem projectRows_eq (exprs : List Expr) (index : Nat) (rows : List Row) :
    projectRows schema policy exprs index rows
      = mapRows (fun row index => Expr.evaluateAll { schema, policy, row, index } exprs) index
          rows := by
  induction rows generalizing index with
  | nil => rfl
  | cons row rest ih =>
      rw [projectRows, mapRows_cons]
      cases Expr.evaluateAll { schema, policy, row, index } exprs with
      | error error => rfl
      | ok values =>
          simp only [ih]
          cases mapRows (fun row index => Expr.evaluateAll { schema, policy, row, index } exprs)
            (index + 1) rest <;> rfl

theorem markedRows_append {front back : List Row} {first second : List Bool}
    (aligned : front.length = first.length) :
    markedRows (front ++ back) (first ++ second)
      = markedRows front first ++ markedRows back second := by
  simp only [markedRows, List.zip_append aligned, List.filter_append, List.map_append]

theorem length_of_mapRows {α : Type} {f : Row → Nat → Except Error α} {index : Nat}
    {rows : List Row} {results : List α} (mapped : mapRows f index rows = .ok results) :
    rows.length = results.length := by
  induction rows generalizing index results with
  | nil =>
      cases mapped
      rfl
  | cons row rest ih =>
      rw [mapRows_cons] at mapped
      simp only [bind_eq_ok] at mapped
      obtain ⟨_, -, others, restMapped, same⟩ := mapped
      cases same
      rw [List.length_cons, List.length_cons, ih restMapped]

theorem sequential_filterRows (predicate : Expr) :
    Sequential (filterRows schema policy predicate) where
  nil _ := rfl
  append index front back := by
    have pieces := (sequential_mapRows fun row index =>
      predicate.holds { schema, policy, row, index }).append index front back
    simp only [filterRows_eq, pieces]
    cases first : mapRows (fun row index => predicate.holds { schema, policy, row, index }) index
      front with
    | error error => rfl
    | ok marks =>
        have aligned := length_of_mapRows first
        cases mapRows (fun row index => predicate.holds { schema, policy, row, index })
          (index + front.length) back with
        | error error => rfl
        | ok others => exact congrArg Except.ok (markedRows_append aligned)

theorem sequential_projectRows (exprs : List Expr) :
    Sequential (projectRows schema policy exprs) := by
  have same : projectRows schema policy exprs
      = mapRows fun row index => Expr.evaluateAll { schema, policy, row, index } exprs := by
    funext index rows
    exact projectRows_eq exprs index rows
  rw [same]
  exact sequential_mapRows _

end Rows

namespace RowRun

/-- Putting the numbered runs of lists together gives the lists together. -/
theorem flatten_number (offset : Nat) (lists : List (List Row)) :
    flatten (number offset lists) = lists.flatten := by
  rw [flatten, List.flatMap_def, map_rows_number]

/-- Runs whose rows are replaced hold what they are replaced by. -/
theorem map_flatten_mapEach (g : RowRun → Except Error (List Row)) (runs : List RowRun) :
    (mapEach (fun run => (g run).map fun rows => { run with rows }) runs).map flatten
      = (mapEach g runs).map List.flatten := by
  induction runs with
  | nil => rfl
  | cons run rest ih =>
      rw [mapEach, mapEach]
      cases g run with
      | error error => rfl
      | ok rows =>
          revert ih
          cases mapEach (fun run => (g run).map fun rows => { run with rows }) rest with
          | error error =>
              cases mapEach g rest with
              | error other => exact fun same => same
              | ok lists =>
                  intro same
                  cases same
          | ok results =>
              cases mapEach g rest with
              | error other =>
                  intro same
                  cases same
              | ok lists =>
                  intro same
                  have later : flatten results = lists.flatten := Except.ok.inj same
                  exact congrArg (fun rest => Except.ok (rows ++ rest)) later

end RowRun

/-! ## Reading stored rows -/

namespace Batch

theorem readRows_eq (columns : List (String × ColumnType)) (rows : List (List Cell)) :
    readRows columns rows = rows.mapM (readRow columns) := by
  induction rows with
  | nil => rfl
  | cons cells rest ih =>
      rw [readRows, List.mapM_cons, ← ih]
      cases readRow columns cells with
      | error error => rfl
      | ok row => cases readRows columns rest <;> rfl

/-- Reading batch by batch gives the rows of all batches in order. -/
theorem map_flatten_readBatches (batches : List Batch) :
    (readBatches batches).map List.flatten
      = (storedRows batches).mapM fun stored => readRow stored.1 stored.2 := by
  induction batches with
  | nil => rfl
  | cons batch rest ih =>
      have here : (batch.rows.map fun cells => (batch.columns, cells)).mapM
          (fun stored => readRow stored.1 stored.2) = batch.read := by
        rw [List.mapM_map, read, readRows_eq]
        rfl
      rw [storedRows, List.flatMap_cons, List.mapM_append, here, readBatches]
      rw [storedRows] at ih
      rw [← ih]
      cases batch.read with
      | error error => rfl
      | ok rows => cases readBatches rest <;> rfl

end Batch

/-! ## Operators and plans -/

namespace Plan

variable {source : TableSource} {policy : FailurePolicy} {plan input : Plan}

/-- The columns and all rows of some runs. -/
def flattened (result : Schema × List RowRun) : Schema × List Row :=
  (result.1, RowRun.flatten result.2)

theorem flattened_number (schema : Schema) (lists : List (List Row)) :
    flattened (schema, RowRun.number 0 lists) = (schema, lists.flatten) := by
  rw [flattened, RowRun.flatten_number]

/-- **One operator** makes the same rows of runs that stand at their positions as of all
their rows, or fails with the same error. -/
theorem operate_flatten {schema : Schema} {runs : List RowRun} (plan : Plan)
    (numbered : RowRun.Numbered runs) :
    (operate policy schema runs plan).map flattened
      = operateRows policy schema (RowRun.flatten runs) plan := by
  -- Going through the runs is going through all rows.
  have pieces : ∀ {g : Nat → List Row → Except Error (List Row)}, Sequential g →
      (RowRun.mapEach (fun run => g run.offset run.rows) runs).map List.flatten
        = g 0 (RowRun.flatten runs) := by
    intro g sequential
    have whole : (runs.map RowRun.rows).flatten = RowRun.flatten runs := List.flatMap_def.symm
    have together := sequential.mapEach_number 0 (runs.map RowRun.rows)
    rwa [← numbered, whole] at together
  cases plan with
  | oneRow => rfl
  | scan name aliasName => rfl
  | filter predicate input =>
      have filters : Sequential (filterRows schema policy predicate) :=
        sequential_filterRows predicate
      have kept := pieces filters
      rw [filterRows_eq] at kept
      calc (operate policy schema runs (.filter predicate input)).map flattened
          = ((RowRun.mapEach (fun run => filterRows schema policy predicate run.offset run.rows)
              runs).map List.flatten) >>= fun rows => .ok (schema, rows) := by
            simp only [operate, map_bind, bind_map, map_ok, flattened_number]
        _ = operateRows policy schema (RowRun.flatten runs) (.filter predicate input) := by
            rw [kept, bind_map, operateRows]
  | project items input =>
      have projects : Sequential (projectRows schema policy (items.map NamedExpr.expr)) :=
        sequential_projectRows (items.map NamedExpr.expr)
      have projected := pieces projects
      rw [projectRows_eq, ← RowRun.map_flatten_mapEach] at projected
      simp only [operate, operateRows, map_bind, map_ok, ← projected, bind_map]
      rfl
  | aggregate keys aggregates input =>
      simp only [operate, operateRows, map_bind, map_ok, flattened_number, List.flatten_singleton]
  | sort keys input =>
      simp only [operate, operateRows, map_bind, map_ok, flattened_number, List.flatten_singleton,
        projectRows_eq]
  | limit count offset input =>
      simp only [operate, operateRows, map_ok, flattened_number, List.flatten_singleton]

theorem rowsFrom_of_input (isInput : plan.input? = some input) :
    plan.rowsFrom source policy
      = input.rowsFrom source policy >>= fun result =>
        operateRows policy result.1 result.2 plan := by
  cases plan <;> cases isInput <;> rfl

/-- **A plan over runs is the plan over one list of rows.** -/
theorem map_flattened_runFrom (plan : Plan) :
    (plan.runFrom source policy).map flattened = plan.rowsFrom source policy := by
  induction plan using inductionOnInput with
  | step plan ih =>
      cases isInput : plan.input? with
      | some input =>
          rw [runFrom_of_input isInput, rowsFrom_of_input isInput, ← ih input isInput, map_bind,
            bind_map]
          cases ran : input.runFrom source policy with
          | error error => rfl
          | ok result => exact operate_flatten plan (numbered_of_runFrom ran)
      | none =>
          cases plan with
          | oneRow => rfl
          | scan name aliasName =>
              simp only [runFrom, rowsFrom, map_bind, map_ok, flattened_number,
                ← Batch.map_flatten_readBatches, bind_map]
          | _ => cases isInput

theorem executeFrom_eq_executeRows (source : TableSource) (policy : FailurePolicy)
    (plan : Plan) : plan.executeFrom source policy = plan.executeRows source policy := by
  rw [executeFrom, executeRows, ← map_flattened_runFrom]
  cases plan.runFrom source policy <;> rfl

end Plan

end ScalarSql
