import ScalarSql.AdaptiveSort
import ScalarSql.Aggregate.Grouping
import ScalarSql.Catalog
import ScalarSql.Plan.Basic

/-!
# Executing plans

Rows flow through the operators of a plan in runs, one for each stored batch.  A run
knows the position of its first row among all rows that come into the operator, so that a
failing function can be tied to a row however the table is cut into batches.  Filters and
projections keep the runs; grouping, sorting and limiting put all rows into one.

The runs may be worked on at the same time.  They are listed here in their order, and where
several of them fail it is the first one in this order that is reported.
-/

set_option autoImplicit false

namespace ScalarSql

/-- A run of rows, with the position of its first row in the input of an operator. -/
structure RowRun where
  offset : Nat
  rows : List Row

/-- The rows of a finished query under their columns. -/
structure QueryResult where
  columns : List Column
  rows : List Row

namespace RowRun

/-- Runs of rows with their positions, the first of which is given. -/
def number (offset : Nat) : List (List Row) → List RowRun
  | [] => []
  | rows :: rest => { offset, rows } :: number (offset + rows.length) rest

/-- All rows of several runs. -/
def flatten (runs : List RowRun) : List Row :=
  runs.flatMap RowRun.rows

/-- The results of a computation on each run, in order.  The first run that fails is reported,
also when a later one fails earlier in time. -/
def mapEach {α : Type} (f : RowRun → Except Error α) : List RowRun → Except Error (List α)
  | [] => .ok []
  | run :: rest =>
      match f run with
      | .error error => .error error
      | .ok result => (mapEach f rest).map (result :: ·)

end RowRun

/-! ## Rows of one operator -/

namespace Batch

/-- The values of one stored row; a cell that is not there is missing. -/
def readRow : List (String × ColumnType) → List Cell → Except Error Row
  | [], _ => .ok []
  | (_, type) :: columns, cells =>
      match type.read (cells.headD .null) with
      | .error error => .error error
      | .ok value => (readRow columns cells.tail).map (value :: ·)

/-- The rows among some stored ones. -/
def readRows (columns : List (String × ColumnType)) : List (List Cell) → Except Error (List Row)
  | [] => .ok []
  | cells :: rest =>
      match readRow columns cells with
      | .error error => .error error
      | .ok row => (readRows columns rest).map (row :: ·)

/-- The rows of a batch. -/
def read (batch : Batch) : Except Error (List Row) :=
  readRows batch.columns batch.rows

end Batch

/-- The rows of each batch, or the failure of the first batch that cannot be read. -/
def readBatches : List Batch → Except Error (List (List Row))
  | [] => .ok []
  | batch :: rest =>
      match batch.read with
      | .error error => .error error
      | .ok rows => (readBatches rest).map (rows :: ·)

/-- The rows that satisfy a predicate; `index` is the position of the first row. -/
def filterRows (schema : Schema) (policy : FailurePolicy) (predicate : Expr) (index : Nat) :
    List Row → Except Error (List Row)
  | [] => .ok []
  | row :: rest =>
      match predicate.holds { schema, policy, row, index } with
      | .error error => .error error
      | .ok keep =>
          (filterRows schema policy predicate (index + 1) rest).map fun kept =>
            if keep then row :: kept else kept

/-- The values of expressions on each row; `index` is the position of the first row. -/
def projectRows (schema : Schema) (policy : FailurePolicy) (exprs : List Expr) (index : Nat) :
    List Row → Except Error (List Row)
  | [] => .ok []
  | row :: rest =>
      match Expr.evaluateAll { schema, policy, row, index } exprs with
      | .error error => .error error
      | .ok values => (projectRows schema policy exprs (index + 1) rest).map (values :: ·)

/-! ## Columns -/

/-- The columns of named expressions. -/
def NamedExpr.columns (schema : Schema) : List NamedExpr → Except Error (List Column)
  | [] => .ok []
  | item :: rest =>
      match item.expr.dataType schema with
      | .error error => .error error
      | .ok type => (columns schema rest).map ({ name := item.name, type } :: ·)

namespace TypedAggregate

/-- Aggregates with the types of their columns. -/
def ofAggregates (schema : Schema) : List Aggregate → Except Error (List TypedAggregate)
  | [] => .ok []
  | aggregate :: rest =>
      match aggregate.outputType schema with
      | .error error => .error error
      | .ok output => (ofAggregates schema rest).map ({ aggregate, output } :: ·)

/-- The column of an aggregate. -/
def column (typed : TypedAggregate) : Column :=
  { name := typed.aggregate.name, type := typed.output }

end TypedAggregate

/-! ## Sorting -/

namespace SortKey

/-- The order of two values of one key. -/
def order (key : SortKey) (left right : Value) : Ordering :=
  match left.isNull, right.isNull with
  | true, true => .eq
  | true, false => if key.nullsFirst then .lt else .gt
  | false, true => if key.nullsFirst then .gt else .lt
  | false, false =>
      if key.ascending then Value.sortOrder left right else Value.sortOrder right left

/-- The order of two rows by the values of their keys; the first key that tells them
apart decides. -/
def orderAll : List SortKey → List Value → List Value → Ordering
  | key :: keys, left :: lefts, right :: rights =>
      match key.order left right with
      | .eq => orderAll keys lefts rights
      | decided => decided
  | _, _, _ => .eq

/-- Whether one row comes before another by the values of their keys. -/
def below (keys : List SortKey) (left right : List Value) : Bool :=
  orderAll keys left right == .lt

/-- Rows in the order of their keys; rows that tie keep their order.  A `NaN` ties with every
double, and so do values that cannot be compared.  By such keys the order may contradict itself,
and the sort gives up if it finds that out. -/
def sortRows (keys : List SortKey) (keyed : List (List Value × Row)) : Except Error (List Row) :=
  match adaptiveSort (fun left right => below keys left.1 right.1) keyed with
  | none => .error .inconsistentOrder
  | some sorted => .ok (sorted.map Prod.snd)

end SortKey

namespace Plan

/-- The columns and the runs of rows that a plan produces. -/
def run (catalog : Catalog) (policy : FailurePolicy) :
    Plan → Except Error (Schema × List RowRun)
  | .oneRow => .ok ({}, [{ offset := 0, rows := [[]] }])
  | .scan name aliasName => do
      let schema ← catalog.scanSchema name aliasName
      let table ← catalog.table name
      let batches ← readBatches table.batches
      .ok (schema, RowRun.number 0 batches)
  | .filter predicate input => do
      let (schema, runs) ← input.run catalog policy
      let kept ← RowRun.mapEach
        (fun run => filterRows schema policy predicate run.offset run.rows) runs
      .ok (schema, RowRun.number 0 kept)
  | .project items input => do
      let (schema, runs) ← input.run catalog policy
      let columns ← NamedExpr.columns schema items
      let projected ← RowRun.mapEach
        (fun run => (projectRows schema policy (items.map NamedExpr.expr) run.offset run.rows).map
          fun rows => { run with rows }) runs
      .ok ({ columns }, projected)
  | .aggregate keys aggregates input => do
      let (schema, runs) ← input.run catalog policy
      let keyColumns ← NamedExpr.columns schema keys
      let typed ← TypedAggregate.ofAggregates schema aggregates
      let rows ← groupRows schema policy (keys.map NamedExpr.expr) typed (RowRun.flatten runs)
      .ok ({ columns := keyColumns ++ typed.map TypedAggregate.column }, RowRun.number 0 [rows])
  | .sort keys input => do
      let (schema, runs) ← input.run catalog policy
      let rows := RowRun.flatten runs
      let values ← projectRows schema policy (keys.map SortKey.expr) 0 rows
      let sorted ← SortKey.sortRows keys (values.zip rows)
      .ok (schema, RowRun.number 0 [sorted])
  | .limit count offset input => do
      let (schema, runs) ← input.run catalog policy
      .ok (schema, RowRun.number 0 [((RowRun.flatten runs).drop offset).take count])

/-- The result of a plan, all of whose calls are resolved by the time they are
evaluated. -/
def execute (catalog : Catalog) (policy : FailurePolicy) (plan : Plan) :
    Except Error QueryResult := do
  let (schema, runs) ← plan.run catalog policy
  .ok { columns := schema.columns, rows := RowRun.flatten runs }

/-- Refuses a plan with a call that is not resolved. -/
def ensureResolved (plan : Plan) : Except Error Unit :=
  match plan.unresolvedCall? with
  | some name => .error (.evaluation (.unresolvedCall name))
  | none => .ok ()

/-- The result of a plan that must be resolved. -/
def executeResolved (catalog : Catalog) (policy : FailurePolicy) (plan : Plan) :
    Except Error QueryResult := do
  plan.ensureResolved
  plan.execute catalog policy

end Plan

end ScalarSql
