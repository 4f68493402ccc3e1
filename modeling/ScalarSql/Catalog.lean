import ScalarSql.Columnar.Encoding
import ScalarSql.Schema
import ScalarSql.Text.Case

/-!
# Tables

A catalog holds tables by name, without regard to case.  The rows of a table come in
batches, which all have the columns of the first one; what is read from a table is the
batches in order.  A table is only stored when queries handle the types of all its
columns.
-/

set_option autoImplicit false

namespace ScalarSql

/-- A run of stored rows under named columns. -/
structure Batch where
  columns : List (String × ColumnType)
  rows : List (List Cell)

/-- A stored table. -/
structure Table where
  columns : List Column
  batches : List Batch

/-- Tables by name. -/
structure Catalog where
  /-- Each table under the lower case form of its name. -/
  tables : List (String × Table) := []

namespace Table

/-- The columns that queries see for stored ones. -/
def columnsOf : List (String × ColumnType) → Except Error (List Column)
  | [] => .ok []
  | (name, type) :: rest =>
      match type.toDataType with
      | .error error => .error error
      | .ok first => (columnsOf rest).map ({ name, type := first } :: ·)

/-- Whether two batches have the same columns. -/
def sameColumns (left right : Batch) : Bool :=
  ColumnType.sameFields left.columns right.columns

/-- The table with the given batches. -/
def ofBatches (name : String) : List Batch → Except Error Table
  | [] => .error (.schema (.noBatches name))
  | first :: rest =>
      if rest.all (sameColumns · first) then
        (columnsOf first.columns).map fun columns => { columns, batches := first :: rest }
      else .error (.schema (.batchSchemaDiffers name))

/-- The number of rows. -/
def size (table : Table) : Nat :=
  (table.batches.flatMap Batch.rows).length

end Table

namespace Catalog

/-- The table with the given name. -/
def table? (catalog : Catalog) (name : String) : Option Table :=
  catalog.tables.lookup (Text.lower name)

/-- The table with the given name, which must exist. -/
def table (catalog : Catalog) (name : String) : Except Error Table :=
  match catalog.table? name with
  | some found => .ok found
  | none => .error (.tableNotFound name)

/-- The columns of a table, qualified by its name and its alias. -/
def scanSchema (catalog : Catalog) (name : String) (aliasName : Option String) :
    Except Error Schema :=
  (catalog.table name).map fun found =>
    { columns := found.columns, qualifiers := name :: aliasName.toList }

/-- Stores a table, in place of one of the same name. -/
def insert (catalog : Catalog) (name : String) (table : Table) : Catalog :=
  let key := Text.lower name
  { tables := (key, table) :: catalog.tables.filter fun entry => entry.1 != key }

/-- Stores the table with the given batches. -/
def register (catalog : Catalog) (name : String) (batches : List Batch) :
    Except Error Catalog :=
  (Table.ofBatches name batches).map (catalog.insert name)

/-- Removes a table. -/
def erase (catalog : Catalog) (name : String) : Catalog :=
  { tables := catalog.tables.filter fun entry => entry.1 != Text.lower name }

end Catalog

end ScalarSql
