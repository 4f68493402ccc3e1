import ScalarSql.Columnar.Grid
import ScalarSql.Plan.Execution

/-!
# Query results

The result of a query can be looked at by row and column name, turned into columns of
cells, and drawn as a table.
-/

set_option autoImplicit false

namespace ScalarSql

/-- Columns of cells, all of the same length. -/
structure ColumnBatch where
  columns : List (String × ColumnType)
  /-- The cells of each column. -/
  cells : List (List Cell)
  /-- The number of rows. -/
  size : Nat

namespace QueryResult

/-- The position of the first column with the given name, ignoring the case of ASCII
letters. -/
def columnIndex? (result : QueryResult) (name : String) : Option Nat :=
  result.columns.findIdx? fun column => Text.sameName column.name name

/-- The value in a row and a column. -/
def value? (result : QueryResult) (row : Nat) (name : String) : Option Value :=
  (result.columnIndex? name).bind fun index => result.rows[row]?.bind fun values => values[index]?

/-- The values of a column. -/
def column? (result : QueryResult) (name : String) : Option (List Value) :=
  (result.columnIndex? name).map fun index => result.rows.map fun values => values.getD index .null

/-- The cells of the columns from a position on. -/
def encodeColumns (rows : List Row) (index : Nat) : List Column →
    Except Error (List (List Cell))
  | [] => .ok []
  | column :: rest =>
      match column.type.encode (rows.map fun values => values.getD index .null) with
      | .error error => .error error
      | .ok cells => (encodeColumns rows (index + 1) rest).map (cells :: ·)

/-- The result as columns of cells; without columns there are no rows either. -/
def toColumns (result : QueryResult) : Except Error ColumnBatch :=
  (encodeColumns result.rows 0 result.columns).map fun cells =>
    { columns := result.columns.map fun column => (column.name, ColumnType.ofDataType column.type)
      cells
      size := if result.columns.isEmpty then 0 else result.rows.length }

end QueryResult

namespace ColumnBatch

/-- The cells of each row. -/
def rows (batch : ColumnBatch) : List (List Cell) :=
  (List.range batch.size).map fun index => batch.cells.map fun column => column.getD index .null

/-- The batch drawn as a table. -/
def draw (batch : ColumnBatch) : String :=
  Grid.draw (batch.columns.map Prod.fst)
    (batch.rows.map fun cells =>
      List.zipWith (fun (column : String × ColumnType) cell => column.2.display cell)
        batch.columns cells)

end ColumnBatch

/-- The result drawn as a table. -/
def QueryResult.draw (result : QueryResult) : Except Error String :=
  result.toColumns.map ColumnBatch.draw

end ScalarSql
