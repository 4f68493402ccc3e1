import ScalarSql.Proofs.Expr.Failure
import ScalarSql.Proofs.Plan.Rows

/-!
# How a table is cut into batches does not matter

Execution is execution over one list of rows, so that it only depends on the stored rows in
order and not on their batches.

**Failing rows.**  Reading tables and typing columns have faults of their own.  A plan
therefore fails as a function does only where an operator goes through its rows,
`Plan.FailsOn`: the reported row is the position of a row among all rows that come into
that operator.

**Main result.**  `Plan.execute_batches`.
-/

set_option autoImplicit false

namespace ScalarSql

/-! ## The same rows in other batches -/

namespace Batch

/-- Two lists of batches hold the same rows in the same order, cut in whatever way. -/
def SameRows (left right : List Batch) : Prop :=
  storedRows left = storedRows right

theorem sameRows_of_columns {left right : List Batch} {columns : List (String × ColumnType)}
    (shared : ∀ batch ∈ left ++ right, batch.columns = columns)
    (rows : left.flatMap Batch.rows = right.flatMap Batch.rows) : SameRows left right := by
  have paired : ∀ batches : List Batch, (∀ batch ∈ batches, batch.columns = columns) →
      storedRows batches = (batches.flatMap Batch.rows).map fun cells => (columns, cells) := by
    intro batches declared
    rw [storedRows, List.map_flatMap]
    refine List.flatMap_congr fun batch member => ?_
    rw [declared batch member]
  rw [SameRows, paired left fun batch member => shared batch (List.mem_append_left _ member),
    paired right fun batch member => shared batch (List.mem_append_right _ member), rows]

end Batch

/-- Two tables have the same columns and hold the same rows. -/
structure Table.SameRows (left right : Table) : Prop where
  columns : left.columns = right.columns
  batches : Batch.SameRows left.batches right.batches

theorem Table.SameRows.refl (table : Table) : table.SameRows table := ⟨rfl, rfl⟩

/-- Tables of the same batches but for how their rows are cut. -/
theorem Table.sameRows_of_batches {name : String} {left right : List Batch}
    {columns : List (String × ColumnType)} {leftTable rightTable : Table}
    (shared : ∀ batch ∈ left ++ right, batch.columns = columns)
    (rows : left.flatMap Batch.rows = right.flatMap Batch.rows)
    (leftMade : ofBatches name left = .ok leftTable)
    (rightMade : ofBatches name right = .ok rightTable) : leftTable.SameRows rightTable := by
  -- A table is made of batches one of which gives it its columns.
  have made : ∀ {batches : List Batch} {table : Table},
      (∀ batch ∈ batches, batch.columns = columns) → ofBatches name batches = .ok table →
        columnsOf columns = .ok table.columns ∧ table.batches = batches := by
    intro batches table declared found
    cases batches with
    | nil => cases found
    | cons batch rest =>
        simp only [ofBatches] at found
        split at found
        · obtain ⟨typed, columnsFound, rfl⟩ := map_eq_ok.mp found
          rw [declared batch List.mem_cons_self] at columnsFound
          exact ⟨columnsFound, rfl⟩
        · cases found
  obtain ⟨leftColumns, leftBatches⟩ :=
    made (fun batch member => shared batch (List.mem_append_left _ member)) leftMade
  obtain ⟨rightColumns, rightBatches⟩ :=
    made (fun batch member => shared batch (List.mem_append_right _ member)) rightMade
  refine ⟨Except.ok.inj (leftColumns.symm.trans rightColumns), ?_⟩
  rw [leftBatches, rightBatches]
  exact Batch.sameRows_of_columns shared rows

/-- Two catalogs have the same tables, each with the same rows. -/
def Catalog.SameRows (left right : Catalog) : Prop :=
  ∀ name, Option.Rel Table.SameRows (left.table? name) (right.table? name)

/-- Storing one table or another that holds the same rows. -/
theorem Catalog.sameRows_insert (catalog : Catalog) (name : String) {left right : Table}
    (same : left.SameRows right) :
    (catalog.insert name left).SameRows (catalog.insert name right) := by
  intro other
  simp only [table?, insert, List.lookup_cons]
  split
  · exact .some same
  · cases (catalog.tables.filter fun entry => entry.1 != Text.lower name).lookup
      (Text.lower other) with
    | none => exact .none
    | some table => exact .some (.refl table)

theorem Catalog.SameRows.scan {left right : Catalog} (same : left.SameRows right)
    (name : String) (aliasName : Option String) :
    (left.source.scan name aliasName = .error (.tableNotFound name) ∧
        right.source.scan name aliasName = .error (.tableNotFound name)) ∨
      ∃ schema leftBatches rightBatches,
        left.source.scan name aliasName = .ok (schema, leftBatches) ∧
        right.source.scan name aliasName = .ok (schema, rightBatches) ∧
        Batch.SameRows leftBatches rightBatches := by
  have here := same name
  simp only [Catalog.source, scanSchema, Catalog.table]
  generalize left.table? name = leftFound at here ⊢
  generalize right.table? name = rightFound at here ⊢
  cases here with
  | none => exact .inl ⟨rfl, rfl⟩
  | @some leftTable rightTable found =>
      refine .inr ⟨{ columns := leftTable.columns, qualifiers := name :: aliasName.toList },
        leftTable.batches, rightTable.batches, rfl, ?_, found.batches⟩
      rw [found.columns]
      rfl

namespace Plan

variable {source : TableSource} {policy : FailurePolicy} {plan input : Plan}

/-- What a plan makes of the tables depends on their rows and not on their batches. -/
theorem rowsFrom_congr {left right : Catalog} (same : left.SameRows right) (plan : Plan) :
    plan.rowsFrom left.source policy = plan.rowsFrom right.source policy := by
  induction plan using inductionOnInput with
  | step plan ih =>
      cases isInput : plan.input? with
      | some input =>
          rw [rowsFrom_of_input isInput, rowsFrom_of_input isInput, ih input isInput]
      | none =>
          cases plan with
          | oneRow => rfl
          | scan name aliasName =>
              rcases same.scan name aliasName with ⟨leftFailed, rightFailed⟩ |
                ⟨schema, leftBatches, rightBatches, leftScanned, rightScanned, rows⟩
              · rw [rowsFrom, rowsFrom, leftFailed, rightFailed]
              · rw [Batch.SameRows] at rows
                simp only [rowsFrom, leftScanned, rightScanned, rows, bind, Except.bind]
          | _ => cases isInput

end Plan

/-! ## Reading tables -/

namespace ColumnType

mutual

/-- Reading a cell has faults of its own. -/
theorem read_ownFault : ∀ (type : ColumnType) (cell : Cell), OwnFault (type.read cell)
  | .int32, cell | .int64, cell => by
      cases cell with
      | number value =>
          simp only [read]
          split <;> trivial
      | _ => trivial
  | .decimal128 precision scale, cell => by
      cases cell with
      | number raw =>
          have own : OwnFault (Decimal.ofCell raw scale) := by
            unfold Decimal.ofCell
            split
            · trivial
            · split <;> trivial
          simp only [read]
          exact own.map
      | _ => trivial
  | .struct fields, cell => by
      cases cell with
      | record members =>
          simp only [read]
          exact (readMembers_ownFault fields members).map
      | _ => trivial
  | .list element, cell => by
      cases cell with
      | list items =>
          simp only [read]
          exact (readItems_ownFault element items).map
      | _ => trivial
  | .int16, cell | .uint32, cell | .float32, cell | .float64, cell | .utf8, cell
  | .largeUtf8, cell | .boolean, cell | .date32, cell | .null, cell => by
      cases cell <;> trivial

theorem readMembers_ownFault : ∀ (fields : List (String × ColumnType)) (cells : List Cell),
    OwnFault (readMembers fields cells)
  | [], cells => by
      rw [readMembers]
      trivial
  | _ :: _, [] => trivial
  | (_, type) :: fields, cell :: cells => by
      rw [readMembers]
      split
      · next failed => exact (read_ownFault type cell).passOn failed
      · exact (readMembers_ownFault fields cells).map

theorem readItems_ownFault : ∀ (element : ColumnType) (cells : List Cell),
    OwnFault (readItems element cells)
  | _, [] => trivial
  | element, cell :: cells => by
      rw [readItems]
      split
      · next failed => exact (read_ownFault element cell).passOn failed
      · exact (readItems_ownFault element cells).map

end

end ColumnType

namespace Batch

theorem readRow_ownFault (columns : List (String × ColumnType)) (cells : List Cell) :
    OwnFault (readRow columns cells) := by
  induction columns generalizing cells with
  | nil => trivial
  | cons field rest ih =>
      rw [readRow]
      split
      · next failed => exact (field.2.read_ownFault (cells.headD .null)).passOn failed
      · exact (ih cells.tail).map

theorem readStored_ownFault (stored : List (List (String × ColumnType) × List Cell)) :
    OwnFault (stored.mapM fun row => readRow row.1 row.2) := by
  induction stored with
  | nil => trivial
  | cons row rest ih =>
      rw [List.mapM_cons]
      cases read : readRow row.1 row.2 with
      | error error => exact (readRow_ownFault row.1 row.2).passOn read
      | ok values => exact ih.map (f := (values :: ·))
end Batch

/-- Finding a table has faults of its own. -/
theorem Catalog.scan_ownFault (catalog : Catalog) (name : String) (aliasName : Option String) :
    OwnFault (catalog.source.scan name aliasName) := by
  simp only [Catalog.source, scanSchema, Catalog.table]
  cases catalog.table? name <;> trivial
namespace Plan

variable {source : TableSource} {policy : FailurePolicy} {plan input : Plan}

/-! ## Failing rows -/

/-- A function fails while an operator of the plan goes through its rows: on the row at a
position among all rows that come in, an expression of the operator fails as the function
does.  The reported row is that position, unless the function has named a row itself. -/
def FailsOn (source : TableSource) (policy : FailurePolicy) (plan : Plan) (function : String)
    (row : Option Nat) (message : String) : Prop :=
  ∃ operator ∈ plan.operators, ∃ input schema rows, operator.input? = some input ∧
    input.rowsFrom source policy = .ok (schema, rows) ∧
    ∃ position current, rows[position]? = some current ∧ ∃ expr ∈ operator.ownExprs,
      expr.evaluate { schema, policy, row := current, index := position }
        = .error (.functionFailed function row message) ∧
      expr.InvokesFailing position function row message

theorem columns_ownFault (schema : Schema) (items : List NamedExpr) :
    OwnFault (NamedExpr.columns schema items) := by
  induction items with
  | nil => trivial
  | cons item rest ih =>
      rw [NamedExpr.columns]
      split
      · next failed => exact (item.expr.dataType_ownFault schema).passOn failed
      · exact ih.map

theorem ofAggregates_ownFault (schema : Schema) (aggregates : List Aggregate) :
    OwnFault (TypedAggregate.ofAggregates schema aggregates) := by
  induction aggregates with
  | nil => trivial
  | cons aggregate rest ih =>
      have here : OwnFault (aggregate.outputType schema) := by
        unfold Aggregate.outputType
        split
        · next failed => exact (aggregate.expr.dataType_ownFault schema).passOn failed
        · split <;> trivial
      rw [TypedAggregate.ofAggregates]
      split
      · next failed => exact here.passOn failed
      · exact ih.map

section Operators

variable {schema : Schema} {rows : List Row} {function message : String} {row : Option Nat}

/-- Going through rows with expressions fails as a function does on a row on which one of
the expressions does. -/
theorem of_mapRows_evaluateAll_failed {exprs : List Expr}
    (failed : mapRows (fun row index => Expr.evaluateAll { schema, policy, row, index } exprs) 0
      rows = .error (.functionFailed function row message)) :
    ∃ position current, rows[position]? = some current ∧ ∃ expr ∈ exprs,
      expr.evaluate { schema, policy, row := current, index := position }
        = .error (.functionFailed function row message) := by
  obtain ⟨position, current, atPosition, found⟩ := of_mapRows_error failed
  rw [Nat.zero_add] at found
  exact ⟨position, current, atPosition, Expr.of_evaluateAll_error found⟩

/-- **One operator fails as a function does** on some row at its position among all rows
that come in. -/
theorem of_operateRows_failed {plan : Plan}
    (failed : operateRows policy schema rows plan
      = .error (.functionFailed function row message)) :
    ∃ position current, rows[position]? = some current ∧ ∃ expr ∈ plan.ownExprs,
      expr.evaluate { schema, policy, row := current, index := position }
        = .error (.functionFailed function row message) := by
  cases plan with
  | oneRow => cases failed
  | scan name aliasName => cases failed
  | limit count offset input => cases failed
  | filter predicate input =>
      rw [operateRows, bind_eq_error] at failed
      rcases failed with marksFailed | ⟨_, -, impossible⟩
      · obtain ⟨position, current, atPosition, found⟩ := of_mapRows_error marksFailed
        rw [Nat.zero_add] at found
        exact ⟨position, current, atPosition, predicate, List.mem_singleton_self predicate,
          Expr.of_holds_failed found⟩
      · cases impossible
  | project items input =>
      rw [operateRows, bind_eq_error] at failed
      rcases failed with columnsFailed | ⟨_, -, later⟩
      · exact absurd columnsFailed (columns_ownFault schema items).ne_failed
      · rw [bind_eq_error] at later
        rcases later with projectFailed | ⟨_, -, impossible⟩
        · exact of_mapRows_evaluateAll_failed projectFailed
        · cases impossible
  | aggregate keys aggregates input =>
      rw [operateRows, bind_eq_error] at failed
      rcases failed with columnsFailed | ⟨_, -, later⟩
      · exact absurd columnsFailed (columns_ownFault schema keys).ne_failed
      · rw [bind_eq_error] at later
        rcases later with typesFailed | ⟨typed, made, later⟩
        · exact absurd typesFailed (ofAggregates_ownFault schema aggregates).ne_failed
        · rw [bind_eq_error] at later
          rcases later with groupsFailed | ⟨_, -, impossible⟩
          · have arguments : (typed.map fun item => item.aggregate.expr)
                = aggregates.map Aggregate.expr := by
              rw [← TypedAggregate.exprs_of_ofAggregates made, List.map_map]
              rfl
            have found := of_groupRows_failed groupsFailed
            rwa [arguments] at found
          · cases impossible
  | sort keys input =>
      rw [operateRows, bind_eq_error] at failed
      rcases failed with valuesFailed | ⟨_, -, later⟩
      · exact of_mapRows_evaluateAll_failed valuesFailed
      · rw [bind_eq_error] at later
        rcases later with sortFailed | ⟨_, -, impossible⟩
        · cases (SortKey.of_sortRows_eq_error sortFailed).1
        · cases impossible

/-- A plan over tables of a catalog fails as a function does where one of its operators
does. -/
theorem failsOn_of_rowsFrom {catalog : Catalog} {plan : Plan}
    (failed : plan.rowsFrom catalog.source policy
      = .error (.functionFailed function row message)) :
    plan.FailsOn catalog.source policy function row message := by
  induction plan using inductionOnInput with
  | step plan ih =>
      cases isInput : plan.input? with
      | some input =>
          rw [rowsFrom_of_input isInput, bind_eq_error] at failed
          rcases failed with below | ⟨⟨schema, rows⟩, ran, here⟩
          · obtain ⟨operator, member, found⟩ := ih input isInput below
            exact ⟨operator, mem_operators_of_input isInput member, found⟩
          · obtain ⟨position, current, atPosition, expr, own, evaluated⟩ :=
              of_operateRows_failed here
            have invokes := (Expr.of_evaluate_failed evaluated).2
            exact ⟨plan, plan.mem_operators_self, input, schema, rows, isInput, ran, position,
              current, atPosition, expr, own, evaluated, invokes⟩
      | none =>
          cases plan with
          | oneRow => cases failed
          | scan name aliasName =>
              rw [rowsFrom, bind_eq_error] at failed
              rcases failed with scanFailed | ⟨⟨schema, batches⟩, -, later⟩
              · exact absurd scanFailed (catalog.scan_ownFault name aliasName).ne_failed
              · rw [bind_eq_error] at later
                rcases later with readFailed | ⟨_, -, impossible⟩
                · exact absurd readFailed (Batch.readStored_ownFault _).ne_failed
                · cases impossible
          | _ => cases isInput

end Operators

/-! ## Execution -/

theorem execute_eq_executeRows (catalog : Catalog) (policy : FailurePolicy) (plan : Plan) :
    plan.execute catalog policy = plan.executeRows catalog.source policy := by
  rw [execute_eq_executeFrom, executeFrom_eq_executeRows]

/-- **Batches do not matter.**  Execution is execution over one list of rows.  Whichever way
the rows of a table are cut into batches, a plan gives the same columns and the same rows in
the same order, or the same error; and where a function fails, it fails on a row at the
reported position among all rows that come into an operator.

Batches may be read and gone through at the same time.  That the error is the same takes that
the first of them that fails is reported (`readBatches`, `RowRun.mapEach`). -/
theorem execute_batches (catalog : Catalog) (plan : Plan) (policy : FailurePolicy) :
    plan.execute catalog policy = plan.executeRows catalog.source policy ∧
    (∀ name columns left right leftCatalog rightCatalog,
      (∀ batch ∈ left ++ right, batch.columns = columns) →
      left.flatMap Batch.rows = right.flatMap Batch.rows →
      catalog.register name left = .ok leftCatalog →
      catalog.register name right = .ok rightCatalog →
        plan.execute leftCatalog policy = plan.execute rightCatalog policy) ∧
    (∀ function row message,
      plan.execute catalog policy = .error (.functionFailed function row message) →
        plan.FailsOn catalog.source policy function row message) := by
  refine ⟨execute_eq_executeRows catalog policy plan, ?_, ?_⟩
  · intro name columns left right leftCatalog rightCatalog shared rows leftStored rightStored
    obtain ⟨leftTable, leftMade, rfl⟩ := map_eq_ok.mp leftStored
    obtain ⟨rightTable, rightMade, rfl⟩ := map_eq_ok.mp rightStored
    have same := catalog.sameRows_insert name
      (Table.sameRows_of_batches shared rows leftMade rightMade)
    rw [execute_eq_executeRows, execute_eq_executeRows, executeRows, executeRows,
      rowsFrom_congr same]
  · intro function row message failed
    rw [execute_eq_executeRows, executeRows, map_eq_error] at failed
    exact failsOn_of_rowsFrom failed

/-- A function fails on the third row of a table, the second one that a filter lets through,
and that is reported for the table in two batches cut in either place. -/
theorem execute_batches_of_failure :
    let f : Callable := .scalar {
      signature := { name := "f", parameters := [.int], returnType := .int, arity := .fixed 1 }
      nullable := [false]
      deterministic := true
      body := fun
        | [.int number] => if number.val = 3 then .failure "three" else .value (.int number)
        | _ => .panic none }
    let batch : List Int → Batch := fun numbers =>
      { columns := [("n", .int32)], rows := numbers.map fun number => [.number number] }
    let plan : Plan := .project [⟨.invocation ⟨0, f⟩ [.column "n"], "m"⟩]
      (.filter (.binary (.comparison .ge) (.column "n") (.literal (.int (.wrap 2))))
        (.scan "t" none))
    let catalog : List Batch → Catalog := fun batches =>
      { tables := [("t", { columns := [⟨"n", .int⟩], batches })] }
    let first := [batch [1, 2], batch [3]]
    let second := [batch [1], batch [2, 3]]
    Catalog.register {} "t" first = .ok (catalog first) ∧
      Catalog.register {} "t" second = .ok (catalog second) ∧
      plan.execute (catalog first) .abort = .error (.functionFailed "f" (some 1) "three") ∧
      plan.execute (catalog first) .abort = plan.execute (catalog second) .abort ∧
      plan.FailsOn (catalog first).source .abort "f" (some 1) "three" := by
  intro f batch plan catalog first second
  have shared : ∀ part ∈ first ++ second, part.columns = [("n", .int32)] := by
    simp [first, second, batch]
  obtain ⟨-, same, -⟩ := execute_batches {} plan .abort
  obtain ⟨inRows, -, failing⟩ := execute_batches (catalog first) plan .abort
  have failed : plan.execute (catalog first) .abort
      = .error (.functionFailed "f" (some 1) "three") := inRows.trans rfl
  have equal := same "t" _ first second _ _ shared rfl rfl rfl
  exact ⟨rfl, rfl, failed, equal, failing _ _ _ failed⟩

end Plan

end ScalarSql
