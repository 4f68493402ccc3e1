import ScalarSql.DataType
import ScalarSql.Double.Basic
import ScalarSql.Error

/-!
# Columns of stored data

Stored tables and exported results hold their data column by column, in cells whose type
is declared once for the column.  A column type can be one that queries do not handle;
`ColumnType.toDataType` says which ones they do.  Exported decimals always have the same
precision and scale.
-/

set_option autoImplicit false

namespace ScalarSql

/-- The type of a stored column. -/
inductive ColumnType where
  | int16
  | int32
  | int64
  | uint32
  | float32
  | float64
  | utf8
  | largeUtf8
  | boolean
  | date32
  | null
  | decimal128 (precision : Nat) (scale : Int)
  | struct (fields : List (String × ColumnType))
  | list (element : ColumnType)
  deriving Inhabited

/-- The content of one cell, which is read according to the type of its column.  A
decimal cell is the integer that the scale divides. -/
inductive Cell where
  | null
  | number (value : Int)
  | real (value : Double)
  | text (value : String)
  | truth (value : Bool)
  | record (members : List Cell)
  | list (items : List Cell)
  deriving Inhabited

/-- The precision of exported decimals. -/
def exportPrecision : Nat := 38

/-- The number of fraction digits of exported decimals. -/
def exportScale : Nat := 10

namespace ColumnType

mutual

/-- Whether two column types are the same, field names included. -/
def same : ColumnType → ColumnType → Bool
  | .int16, .int16 => true
  | .int32, .int32 => true
  | .int64, .int64 => true
  | .uint32, .uint32 => true
  | .float32, .float32 => true
  | .float64, .float64 => true
  | .utf8, .utf8 => true
  | .largeUtf8, .largeUtf8 => true
  | .boolean, .boolean => true
  | .date32, .date32 => true
  | .null, .null => true
  | .decimal128 leftPrecision leftScale, .decimal128 rightPrecision rightScale =>
      leftPrecision == rightPrecision && leftScale == rightScale
  | .struct left, .struct right => sameFields left right
  | .list left, .list right => same left right
  | _, _ => false

/-- Whether two lists of fields agree in names and types. -/
def sameFields : List (String × ColumnType) → List (String × ColumnType) → Bool
  | [], [] => true
  | (leftName, leftType) :: left, (rightName, rightType) :: right =>
      leftName == rightName && same leftType rightType && sameFields left right
  | _, _ => false

end

instance : BEq ColumnType := ⟨same⟩

/-- The name of a column type without parameters; the others have no short name. -/
def name : ColumnType → String
  | .int16 => "Int16"
  | .int32 => "Int32"
  | .int64 => "Int64"
  | .uint32 => "UInt32"
  | .float32 => "Float32"
  | .float64 => "Float64"
  | .utf8 => "Utf8"
  | .largeUtf8 => "LargeUtf8"
  | .boolean => "Boolean"
  | .date32 => "Date32"
  | .null => "Null"
  | .decimal128 .. => "Decimal128"
  | .struct _ => "Struct"
  | .list _ => "List"

mutual

/-- The type of the values in a column, if queries handle it. -/
def toDataType : ColumnType → Except Error DataType
  | .int32 => .ok .int
  | .int64 => .ok .long
  | .float64 => .ok .double
  | .utf8 => .ok .string
  | .boolean => .ok .boolean
  | .decimal128 _ _ => .ok .decimal
  | .struct fields => (fieldTypes fields).map .struct
  | .list element => element.toDataType.map .array
  | other =>
      .error (.typeMismatch "Int32|Int64|Float64|Utf8|Boolean|Decimal128|Struct|List" other.name)

/-- The types of values in the fields of a record; the first field without one is
reported. -/
def fieldTypes : List (String × ColumnType) → Except Error (List (String × DataType))
  | [] => .ok []
  | (name, type) :: rest =>
      match type.toDataType with
      | .error error => .error error
      | .ok first => (fieldTypes rest).map ((name, first) :: ·)

end

mutual

/-- The column type that values of a type are exported to. -/
def ofDataType : DataType → ColumnType
  | .int => .int32
  | .long => .int64
  | .double => .float64
  | .string => .utf8
  | .boolean => .boolean
  | .decimal => .decimal128 exportPrecision exportScale
  | .struct fields => .struct (ofFields fields)
  | .array element => .list (ofDataType element)
  | .unresolved => .null

/-- The columns that store the fields of a structure. -/
def ofFields : List (String × DataType) → List (String × ColumnType)
  | [] => []
  | (name, type) :: rest => (name, ofDataType type) :: ofFields rest

end

end ColumnType

end ScalarSql
