import ScalarSql.DataType
import ScalarSql.Error

/-!
# Row schemas

The names and types of the columns of a row, and the names that may qualify a column.
Lookup ignores the case of ASCII letters and the first column of a name wins.
-/

set_option autoImplicit false

namespace ScalarSql

/-- A named column with its type. -/
structure Column where
  name : String
  type : DataType
  deriving DecidableEq

/-- The columns of a row. -/
structure Schema where
  columns : List Column := []
  /-- The names under which the table of the columns is known. -/
  qualifiers : List String := []
  deriving DecidableEq

namespace Schema

/-- The position of the first column with the given name. -/
def indexOf? (schema : Schema) (name : String) : Option Nat :=
  schema.columns.findIdx? fun column => Text.sameName column.name name

/-- The first column with the given name. -/
def column? (schema : Schema) (name : String) : Option Column :=
  schema.columns.find? fun column => Text.sameName column.name name

/-- Whether the name qualifies the columns. -/
def isQualifier (schema : Schema) (name : String) : Bool :=
  schema.qualifiers.any (Text.sameName · name)

/-- The names of the columns in order. -/
def names (schema : Schema) : List String :=
  schema.columns.map Column.name

end Schema

/-- The type of a field of a structure type. -/
def DataType.fieldType (type : DataType) (field : String) : Except AnalysisError DataType :=
  match type with
  | .struct _ =>
      match type.field? field with
      | some found => .ok found.2
      | none => .error (.noSuchField field type)
  | other => .error (.notAStruct field other)

end ScalarSql
