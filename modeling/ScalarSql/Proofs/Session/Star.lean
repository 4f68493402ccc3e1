import ScalarSql.Proofs.Catalog
import ScalarSql.Proofs.Plan.RespelledOrder
import ScalarSql.Proofs.Session.LetterCase

/-!
# All columns of a table

A star stands for the names of all columns of the table, and every name is looked up again like
a name that is written in the query.  A table may have several columns of one name, since
registering only asks that their types are handled.

**Main result.**  `Session.answer_star`: selecting all columns of a registered table whose rows
can be read always has a result, and it is the stored table with every column read from the
first column of its name, `QueryResult.reread`.  The names and their order are those of the
table, and the result is the table itself exactly when every column is like the first one of its
name, `QueryResult.LikeFirst`, which is the case if no two columns have the same name.
-/

set_option autoImplicit false

namespace ScalarSql

/-! ## Reading a result again -/

/-- Items that are all found keep their positions. -/
theorem getElem?_filterMap_of_found {α β : Type} {found : α → Option β} {items : List α}
    (each : ∀ item ∈ items, ∃ result, found item = some result) (index : Nat) :
    (items.filterMap found)[index]? = items[index]?.bind found := by
  induction items generalizing index with
  | nil => rfl
  | cons first rest ih =>
      obtain ⟨⟨result, here⟩, later⟩ := List.forall_mem_cons.mp each
      rw [List.filterMap_cons, here]
      cases index with
      | zero => exact here.symm
      | succ index => exact ih later index

namespace QueryResult

variable {result : QueryResult}

/-- Every row has a value in every column. -/
def Aligned (result : QueryResult) : Prop :=
  ∀ row ∈ result.rows, row.length = result.columns.length

/-- Every column has the type of the first column of its name and the value of that column in
every row. -/
def LikeFirst (result : QueryResult) : Prop :=
  ∀ (index first : Nat) (column : Column), result.columns[index]? = some column →
    result.columnIndex? column.name = some first →
      result.columns[first]?.map Column.type = some column.type ∧
        ∀ row ∈ result.rows, row[first]? = row[index]?

/-- Every column of a result has a first column of its name. -/
theorem exists_columnIndex? {column : Column} (member : column ∈ result.columns) :
    ∃ first other, result.columnIndex? column.name = some first ∧
      result.columns[first]? = some other := by
  have named : ∃ other ∈ result.columns, Text.sameName other.name column.name = true :=
    ⟨column, member, Text.sameName_refl _⟩
  cases found : result.columnIndex? column.name with
  | none =>
      obtain ⟨other, inColumns, same⟩ := named
      have different := List.findIdx?_eq_none_iff.mp found other inColumns
      exact nomatch same.symm.trans different
  | some first =>
      obtain ⟨bound, -⟩ := List.findIdx?_eq_some_iff_getElem.mp found
      exact ⟨first, result.columns[first], rfl, List.getElem?_eq_getElem bound⟩

/-- The column at a position, read from the first one of its name. -/
theorem columns_reread (result : QueryResult) (index : Nat) :
    result.reread.columns[index]? = result.columns[index]?.bind fun column =>
      ((result.columnIndex? column.name).bind (result.columns[·]?)).map fun first =>
        { name := column.name, type := first.type } := by
  refine getElem?_filterMap_of_found (fun column member => ?_) index
  obtain ⟨first, other, found, atFirst⟩ := exists_columnIndex? member
  exact ⟨_, by rw [found, Option.bind_some, atFirst]; rfl⟩

/-- The value at a position, read from the first column of the name. -/
theorem row_reread {row : Row} (aligned : row.length = result.columns.length) (index : Nat) :
    (result.columns.filterMap fun column =>
        (result.columnIndex? column.name).bind (row[·]?))[index]?
      = result.columns[index]?.bind fun column =>
          (result.columnIndex? column.name).bind (row[·]?) := by
  refine getElem?_filterMap_of_found (fun column member => ?_) index
  obtain ⟨first, other, found, atFirst⟩ := exists_columnIndex? member
  obtain ⟨bound, -⟩ := List.getElem?_eq_some_iff.mp atFirst
  have inRow : first < row.length := aligned ▸ bound
  exact ⟨row[first], by rw [found, Option.bind_some, List.getElem?_eq_getElem inRow]⟩

/-- Reading again keeps all names. -/
theorem names_reread (result : QueryResult) :
    result.reread.columns.map Column.name = result.columns.map Column.name := by
  refine List.ext_getElem? fun index => ?_
  rw [List.getElem?_map, List.getElem?_map, columns_reread]
  cases atIndex : result.columns[index]? with
  | none => rfl
  | some column =>
      obtain ⟨first, other, found, atFirst⟩ := exists_columnIndex? (List.mem_of_getElem? atIndex)
      rw [Option.bind_some, found, Option.bind_some, atFirst]
      rfl

/-- Reading again keeps the columns exactly if every one has the type of the first one of its
name. -/
theorem columns_reread_eq_iff (result : QueryResult) :
    result.reread.columns = result.columns ↔
      ∀ (index first : Nat) (column : Column), result.columns[index]? = some column →
        result.columnIndex? column.name = some first →
          result.columns[first]?.map Column.type = some column.type := by
  constructor
  · intro same index first column atIndex found
    have sameColumn : result.reread.columns[index]? = result.columns[index]? := by rw [same]
    rw [columns_reread, atIndex, Option.bind_some, found, Option.bind_some] at sameColumn
    obtain ⟨other, atFirst, made⟩ := Option.map_eq_some_iff.mp sameColumn
    rw [atFirst, ← made]
    rfl
  · intro types
    refine List.ext_getElem? fun index => ?_
    rw [columns_reread]
    cases atIndex : result.columns[index]? with
    | none => rfl
    | some column =>
        obtain ⟨first, other, found, atFirst⟩ := exists_columnIndex? (List.mem_of_getElem? atIndex)
        have type := types index first column atIndex found
        rw [atFirst, Option.map_some, Option.some.injEq] at type
        rw [Option.bind_some, found, Option.bind_some, atFirst, Option.map_some, type]

/-- Reading again keeps a row exactly if it has in every column the value of the first one of its
name. -/
theorem row_reread_eq_iff {row : Row} (aligned : row.length = result.columns.length) :
    (result.columns.filterMap fun column => (result.columnIndex? column.name).bind (row[·]?)) = row
      ↔ ∀ (index first : Nat) (column : Column), result.columns[index]? = some column →
          result.columnIndex? column.name = some first → row[first]? = row[index]? := by
  constructor
  · intro same index first column atIndex found
    have value := row_reread aligned index
    rw [same, atIndex, Option.bind_some, found, Option.bind_some] at value
    exact value.symm
  · intro values
    refine List.ext_getElem? fun index => ?_
    rw [row_reread aligned]
    cases atIndex : result.columns[index]? with
    | none =>
        have beyond := List.getElem?_eq_none_iff.mp atIndex
        exact (List.getElem?_eq_none (aligned ▸ beyond)).symm
    | some column =>
        obtain ⟨first, other, found, -⟩ := exists_columnIndex? (List.mem_of_getElem? atIndex)
        rw [Option.bind_some, found, Option.bind_some]
        exact values index first column atIndex found

/-- **Reading again changes nothing** exactly when every column is like the first one of its
name. -/
theorem reread_eq_self_iff (aligned : result.Aligned) :
    result.reread = result ↔ result.LikeFirst := by
  constructor
  · intro same index first column atIndex found
    have types := (columns_reread_eq_iff result).mp (congrArg QueryResult.columns same)
    refine ⟨types index first column atIndex found, fun row member => ?_⟩
    have sameRows : result.reread.rows = result.rows.map id := by rw [same, List.map_id]
    have sameRow := List.map_inj_left.mp sameRows row member
    exact (row_reread_eq_iff (aligned row member)).mp sameRow index first column atIndex found
  · intro like
    have columns : result.reread.columns = result.columns := by
      refine (columns_reread_eq_iff result).mpr ?_
      intro index first column atIndex found
      exact (like index first column atIndex found).1
    have rows : result.reread.rows = result.rows := by
      refine (List.map_congr_left fun row member => ?_).trans (List.map_id _)
      refine (row_reread_eq_iff (aligned row member)).mpr ?_
      intro index first column atIndex found
      exact (like index first column atIndex found).2 row member
    show QueryResult.mk result.reread.columns result.reread.rows = result
    rw [columns, rows]

end QueryResult

/-! ## Stored tables -/

namespace Table

theorem names_of_columnsOf {stored : List (String × ColumnType)} {columns : List Column}
    (handled : columnsOf stored = .ok columns) :
    columns.map Column.name = stored.map Prod.fst := by
  induction stored generalizing columns with
  | nil =>
      cases handled
      rfl
  | cons field rest ih =>
      obtain ⟨name, type⟩ := field
      simp only [columnsOf] at handled
      split at handled
      · cases handled
      · obtain ⟨others, restHandled, rfl⟩ := map_eq_ok.mp handled
        rw [List.map_cons, List.map_cons, ih restHandled]

end Table

namespace Batch

/-- A stored row is read as one value for each column, also if cells are missing. -/
theorem length_of_readRow {stored : List (String × ColumnType)} {cells : List Cell} {row : Row}
    (read : readRow stored cells = .ok row) : row.length = stored.length := by
  induction stored generalizing cells row with
  | nil =>
      cases read
      rfl
  | cons field rest ih =>
      obtain ⟨name, type⟩ := field
      simp only [readRow] at read
      split at read
      · cases read
      · obtain ⟨others, restRead, rfl⟩ := map_eq_ok.mp read
        rw [List.length_cons, List.length_cons, ih restRead]

end Batch

/-- The rows that are read from batches with the columns of a table have a value for each of
them. -/
theorem length_of_readBatches {columns : List Column} {batches : List Batch}
    {lists : List (List Row)}
    (handled : ∀ batch ∈ batches, Table.columnsOf batch.columns = .ok columns)
    (read : readBatches batches = .ok lists) :
    ∀ row ∈ lists.flatten, row.length = columns.length := by
  have rows : (Batch.storedRows batches).mapM (fun stored => Batch.readRow stored.1 stored.2)
      = .ok lists.flatten := by
    rw [← Batch.map_flatten_readBatches, read, map_ok]
  intro row member
  obtain ⟨position, atPosition⟩ := List.mem_iff_getElem?.mp member
  obtain ⟨bound, -⟩ := List.getElem?_eq_some_iff.mp atPosition
  rw [length_of_mapM rows] at bound
  obtain ⟨result, inRows, here⟩ := getElem?_of_mapM rows (List.getElem?_eq_getElem bound)
  obtain rfl : row = result := Option.some.inj (atPosition.symm.trans inRows)
  have stored : (Batch.storedRows batches)[position] ∈ Batch.storedRows batches :=
    List.getElem_mem bound
  obtain ⟨batch, inBatches, inBatch⟩ := List.mem_flatMap.mp stored
  obtain ⟨cells, -, pair⟩ := List.mem_map.mp inBatch
  rw [Batch.length_of_readRow here, ← pair]
  have names := congrArg List.length (Table.names_of_columnsOf (handled batch inBatches))
  rw [List.length_map, List.length_map] at names
  exact names.symm

/-- A table is found under the name that it is registered by, in any letter case. -/
theorem Catalog.table_of_register {catalog extended : Catalog} {name : String}
    {batches : List Batch} (stored : catalog.register name batches = .ok extended) :
    ∃ table, Table.ofBatches name batches = .ok table ∧
      ∀ other, Text.lower other = Text.lower name → extended.table other = .ok table := by
  obtain ⟨table, made, rfl⟩ := map_eq_ok.mp stored
  refine ⟨table, made, fun other same => ?_⟩
  have found : (catalog.insert name table).table? other = some table := by
    rw [Catalog.table?, same]
    exact List.lookup_cons_self
  rw [Catalog.table, found]

/-! ## The query -/

/-- `SELECT * FROM` a table, with the spellings of its parts. -/
def Syntax.Query.star (path : List Syntax.Name) (aliasName : Option Syntax.Name)
    (sign source spelling : String) : Syntax.Query where
  body := .select {
    distinct := false
    items := [.star sign]
    sources := [{ source := .table path aliasName, joined := false, spelling := source }]
    condition := none
    grouping := .terms []
    having := none }
  order := []
  limit := none
  offset := none
  spelling := spelling

/-- A star stands for all columns of the table. -/
theorem Plan.ofStatement_star (tableColumns : String → List String) (path : List Syntax.Name)
    (aliasName : Option Syntax.Name) (sign source spelling : String) :
    Plan.ofStatement tableColumns (.query (Syntax.Query.star path aliasName sign source spelling))
      = .ok (.project []
          (.scan (Syntax.Name.pathSpelling path) (aliasName.map Syntax.Name.text))) := rfl

namespace Session

variable {session : Session} {schema : Schema}

/-- A star has no hidden columns. -/
theorem names_visible (schema : Schema) :
    schema.names = (Plan.allColumns schema ++ []).map NamedExpr.name := by
  rw [List.append_nil, Plan.names_allColumns]

/-- **A star is resolved without fail**, and each of its columns is found as the first one of its
name. -/
theorem resolveNamed_star (session : Session) (schema : Schema) (rows : List Row)
    (next : Nat) :
    Plan.resolveNamed session.scope schema (Plan.allColumns schema) next
      = .ok ((Plan.allColumns schema,
          (QueryResult.reread { columns := schema.columns, rows }).columns), next) := by
  have known : ∀ item ∈ Plan.allColumns schema,
      ∃ column, schema.column? item.name = some column := by
    intro item member
    obtain ⟨_, _, _, _, found⟩ := exists_column? (names_visible schema) item member
    exact found
  obtain ⟨produced, resolved⟩ := exists_resolvePassThrough known session.scope next
  have columns : produced = (QueryResult.reread { columns := schema.columns, rows }).columns := by
    have looked := (eq_of_resolveNamed_passThrough resolved).2
    simp only [Schema.column?_eq_bind] at looked
    exact looked.trans List.filterMap_map
  rwa [Plan.passThrough_allColumns, columns] at resolved

/-- What a star makes of a row of the table. -/
theorem evaluateAll_star (policy : FailurePolicy) {row : Row}
    (aligned : row.length = schema.columns.length) (index : Nat) :
    Expr.evaluateAll { schema, policy, row, index }
        ((Plan.allColumns schema).map NamedExpr.expr)
      = .ok (schema.columns.filterMap fun column =>
          (schema.indexOf? column.name).bind (row[·]?)) := by
  have length : (Plan.allColumns schema).length = row.length := by
    rw [Plan.allColumns, List.length_map, aligned]
  have evaluated := evaluateAll_reread (names_visible schema) policy (Nat.le_of_eq length) index
  rw [Plan.passThrough_allColumns, length, List.take_length] at evaluated
  rw [evaluated, NamedExpr.reread, Plan.allColumns, List.filterMap_map]
  refine congrArg Except.ok (List.filterMap_congr fun column member => ?_)
  have position := Plan.indexOf?_eq_positionOf? (Plan.names_allColumns schema) column.name
  rw [position]
  rfl

/-- Settling leaves a star as it is. -/
theorem mapExprs_star (schema : Schema) (input : Plan) :
    (Plan.project (Plan.allColumns schema) input).mapExprs session.rewriting
      = .project (Plan.allColumns schema) (input.mapExprs session.rewriting) := by
  rw [Plan.mapExprs, Plan.allColumns, List.map_map]
  refine congrArg (Plan.project · _) (List.map_congr_left fun column _ => ?_)
  rw [Function.comp_apply, session.rewriter_rewriting.column]

/-- A star over a table is accepted. -/
theorem analyzeNode_star {name : String} {aliasName : Option String}
    (scanned : session.catalog.scanSchema name aliasName = .ok schema) (rows : List Row)
    (next : Nat) :
    (Plan.project [] (.scan name aliasName)).analyzeNode session.scope session.catalog next
      = .ok ((.project (Plan.allColumns schema) (.scan name aliasName),
          { columns := (QueryResult.reread { columns := schema.columns, rows }).columns }),
          next) := by
  simp only [Plan.analyzeNode, state_bind_eq_ok, state_lift_eq_ok, state_pure_eq_ok]
  exact ⟨_, next, ⟨schema, next, ⟨scanned, rfl⟩, rfl⟩, _, next,
    resolveNamed_star session schema rows next, rfl⟩

/-- **A star over a table** whose rows can be read has a result. -/
theorem execute_star {table : Table} {lists : List (List Row)} {name : String}
    {aliasName : Option String} (scanned : session.catalog.scanSchema name aliasName = .ok schema)
    (found : session.catalog.table name = .ok table) (read : readBatches table.batches = .ok lists)
    (aligned : ∀ row ∈ lists.flatten, row.length = schema.columns.length) :
    (Plan.project (Plan.allColumns schema) (.scan name aliasName)).execute session.catalog
        session.config.onError
      = .ok (QueryResult.reread { columns := schema.columns, rows := lists.flatten }) := by
  have rows : (Batch.storedRows table.batches).mapM
      (fun stored => Batch.readRow stored.1 stored.2) = .ok lists.flatten := by
    rw [← Batch.map_flatten_readBatches, read, map_ok]
  have columns := NamedExpr.columns_eq_ok
    (Plan.hasColumns_of_resolveNamed (resolveNamed_star session schema lists.flatten 0))
  have values := mapRows_eq_map (fun row member index =>
    evaluateAll_star session.config.onError (aligned row member) index) 0
  rw [Plan.execute_eq_executeFrom, Plan.executeFrom_eq_executeRows, Plan.executeRows]
  refine map_eq_ok.mpr ⟨({ columns := _ }, _), ?_, rfl⟩
  simp only [Plan.rowsFrom, Plan.operateRows, Catalog.source, bind_eq_ok]
  exact ⟨(schema, lists.flatten),
    ⟨(schema, table.batches), ⟨schema, scanned, table, found, rfl⟩, _, rows, rfl⟩,
    _, columns, _, values, rfl⟩

/-- **All columns of a table** whose rows can be read: each is read from the first column of its
name. -/
theorem answer_star_of_table {table : Table} {lists : List (List Row)} {path : List Syntax.Name}
    (found : session.catalog.table (Syntax.Name.pathSpelling path) = .ok table)
    (handled : ∀ batch ∈ table.batches, Table.columnsOf batch.columns = .ok table.columns)
    (scanned : readBatches table.batches = .ok lists) (aliasName : Option Syntax.Name)
    (sign source spelling : String) (next : Nat) :
    session.answer (.query (Syntax.Query.star path aliasName sign source spelling)) next
      = .ok (QueryResult.reread { columns := table.columns, rows := lists.flatten }, next) := by
  let schema : Schema :=
    { columns := table.columns
      qualifiers := Syntax.Name.pathSpelling path :: (aliasName.map Syntax.Name.text).toList }
  have isScanned : session.catalog.scanSchema (Syntax.Name.pathSpelling path)
      (aliasName.map Syntax.Name.text) = .ok schema := by
    rw [Catalog.scanSchema, found]
    rfl
  have accepted := analyzeNode_star isScanned lists.flatten next
  have typed := Plan.hasSchema_of_analyzeNode accepted
  obtain ⟨settled, result⟩ := exists_settle typed next
  have executed : session.execute settled
      = .ok (QueryResult.reread { columns := table.columns, rows := lists.flatten }) := by
    rw [execute_of_settle typed result, mapExprs_star]
    exact execute_star isScanned found scanned (length_of_readBatches handled scanned)
  simp only [answer, analyze, Plan.analyze, state_bind_eq_ok, state_lift_eq_ok, state_pure_eq_ok]
  exact ⟨_, next, ⟨Plan.ofStatement_star .., rfl⟩, _, next, ⟨_, next, accepted, rfl⟩, settled, next,
    result, executed, rfl⟩

/-- **All columns of a registered table.**  Selecting them always has a result if the rows can be
read: it has the names of the stored columns in their order and a row for every stored row, and
every column is read from the first one of its name.  It is the stored table exactly when every
column is like the first one of its name, and so it is if no two columns have the same name. -/
theorem answer_star {session held : Session} {name : String} {batches : List Batch}
    (accepted : session.registerTable name batches = .ok held) {path : List Syntax.Name}
    (named : Text.lower (Syntax.Name.pathSpelling path) = Text.lower name)
    {lists : List (List Row)} (scanned : readBatches batches = .ok lists)
    (aliasName : Option Syntax.Name) (sign source spelling : String) (next : Nat) :
    ∃ table, Table.ofBatches name batches = .ok table ∧
      let stored : QueryResult := { columns := table.columns, rows := lists.flatten }
      held.answer (.query (Syntax.Query.star path aliasName sign source spelling)) next
          = .ok (stored.reread, next) ∧
        (∀ batch ∈ batches,
          stored.reread.columns.map Column.name = batch.columns.map Prod.fst) ∧
        (stored.reread = stored ↔ stored.LikeFirst) ∧
        (stored.Distinct → stored.reread = stored) := by
  obtain ⟨catalog, registered, rfl⟩ := map_eq_ok.mp accepted
  obtain ⟨table, made, found⟩ := Catalog.table_of_register registered
  obtain ⟨rfl, handled⟩ := Table.of_ofBatches made
  have aligned : ∀ row ∈ lists.flatten, row.length = table.columns.length :=
    length_of_readBatches handled scanned
  refine ⟨table, made, ?_, ?_, QueryResult.reread_eq_self_iff aligned, ?_⟩
  · exact answer_star_of_table (found _ named) handled scanned aliasName sign source spelling next
  · intro batch member
    exact (QueryResult.names_reread _).trans (Table.names_of_columnsOf (handled batch member))
  · intro distinct
    exact QueryResult.reread_eq_self distinct aligned

/-- `SELECT * FROM t` over two batches of a table with the columns `a`, `b` and `A`. -/
theorem answer_star_of_shadowed :
    let name (text : String) : Syntax.Name := ⟨text, none⟩
    let batch (first third : Int) (second : String) : Batch := {
      columns := [("a", .int32), ("b", .utf8), ("A", .int32)]
      rows := [[.number first, .text second, .number third]] }
    let batches := [batch 1 10 "x", batch 2 20 "y"]
    let row (first third : Int) (second : String) : Row :=
      [.int (BoundedInt.wrap first), .string second, .int (BoundedInt.wrap third)]
    let columns : List Column := [⟨"a", .int⟩, ⟨"b", .string⟩, ⟨"A", .int⟩]
    let held := match (ofConfig {} {}).registerTable "t" batches with
      | .ok made => made
      | .error _ => ofConfig {} {}
    let query := Syntax.Query.star [name "T"] none "*" "T" "SELECT * FROM T"
    (ofConfig {} {}).registerTable "t" batches = .ok held ∧
      readBatches batches = .ok [[row 1 10 "x"], [row 2 20 "y"]] ∧
      held.answer (.query query) 0
        = .ok ({ columns, rows := [row 1 1 "x", row 2 2 "y"] }, 0) := by
  intro name batch batches row columns held query
  have accepted : (ofConfig {} {}).registerTable "t" batches = .ok held := rfl
  have scanned : readBatches batches = .ok [[row 1 10 "x"], [row 2 20 "y"]] := rfl
  have named : Text.lower (Syntax.Name.pathSpelling [name "T"]) = Text.lower "t" := by decide
  obtain ⟨table, made, answered, -⟩ :=
    answer_star accepted named scanned none "*" "T" "SELECT * FROM T" 0
  refine ⟨accepted, scanned, ?_⟩
  have isTable : table = { columns, batches } := Except.ok.inj (made.symm.trans rfl)
  rw [isTable] at answered
  exact answered

end Session

end ScalarSql
