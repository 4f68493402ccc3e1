import ScalarSql.Columnar.Basic
import ScalarSql.Value.Basic

/-!
# Values in columns

`ColumnType.read` turns a cell into a value and `DataType.encode` turns the values of one
type into the cells of a column.  Encoding goes column by column: all values of the first
field of a structure are encoded before those of the second, and the items of all arrays
of a column are encoded as one column.  Reading back what was encoded gives the values
that were encoded, with decimals at the export scale.
-/

set_option autoImplicit false

namespace ScalarSql

/-! ## Reading cells -/

/-- The decimal that a stored integer denotes under a scale. -/
def Decimal.ofCell (raw scale : Int) : Except Error Decimal :=
  if scale < 0 then .error (.schema (.negativeDecimalScale scale))
  else
    match Decimal.ofParts? (raw < 0) raw.natAbs scale.toNat with
    | some d => .ok d
    | none => .error (.schema .decimalOutOfRange)

namespace ColumnType

/-- The error for a cell of a column that queries do not handle. -/
def unreadable (type : ColumnType) : Except Error Value :=
  .error (.typeMismatch "Int32|Int64|Float64|Boolean|Utf8|Decimal128|Struct|List" type.name)

mutual

/-- The value in a cell of a column.  The cells of a column without a type are not marked
as missing, so they cannot be read at all. -/
def read : ColumnType → Cell → Except Error Value
  | .null, _ => unreadable .null
  | _, .null => .ok .null
  | .int32, .number value =>
      match BoundedInt.ofInt? value with
      | some number => .ok (.int number)
      | none => .error .columnar
  | .int64, .number value =>
      match BoundedInt.ofInt? value with
      | some number => .ok (.long number)
      | none => .error .columnar
  | .float64, .real value => .ok (.double value)
  | .utf8, .text value => .ok (.string value)
  | .boolean, .truth value => .ok (.boolean value)
  | .decimal128 _ scale, .number raw => (Decimal.ofCell raw scale).map .decimal
  | .struct fields, .record members => (readMembers fields members).map .struct
  | .list element, .list items => (readItems element items).map .array
  | other, _ => unreadable other

/-- The values of the members of a record; members beyond the cells given are missing. -/
def readMembers : List (String × ColumnType) → List Cell → Except Error (List (String × Value))
  | [], _ => .ok []
  | fields, [] => .ok (fields.map fun field => (field.1, .null))
  | (name, type) :: fields, cell :: cells =>
      match type.read cell with
      | .error error => .error error
      | .ok value => (readMembers fields cells).map ((name, value) :: ·)

/-- The values of the items of a list. -/
def readItems : ColumnType → List Cell → Except Error (List Value)
  | _, [] => .ok []
  | element, item :: rest =>
      match element.read item with
      | .error error => .error error
      | .ok value => (readItems element rest).map (value :: ·)

end

end ColumnType

/-! ## Writing cells -/

/-- The cell of a decimal: its coefficient at the export scale.  Fraction digits beyond
that scale are rounded away; a decimal that has no room at the scale is refused. -/
def Decimal.toCell (d : Decimal) : Except Error Cell :=
  let scaled := d.rescale exportScale
  if scaled.scale = exportScale then .ok (.number scaled.signedCoefficient)
  else .error (.schema (.decimalTooWide d.text exportPrecision exportScale))

namespace DataType

/-- The cell of a value in a column of a type without parts. -/
def encodeScalar (type : DataType) (value : Value) : Except Error Cell :=
  match type, value with
  | _, .null => .ok .null
  | .int, .int number => .ok (.number number.val)
  | .long, .long number => .ok (.number number.val)
  | .double, .double number => .ok (.real number)
  | .string, .string text => .ok (.text text)
  | .boolean, .boolean truth => .ok (.truth truth)
  | .decimal, .decimal number => number.toCell
  | _, other => .error (other.mismatch type.text)

/-- The items of the arrays in a column, where a missing array has none. -/
def arrayItems (type : DataType) : List Value → Except Error (List (Option (List Value)))
  | [] => .ok []
  | .null :: rest => (arrayItems type rest).map (none :: ·)
  | .array items :: rest => (arrayItems type rest).map (some items :: ·)
  | other :: _ => .error (other.mismatch type.text)

/-- Cuts one column of cells into the lists it was gathered from. -/
def regroup : List (Option (List Value)) → List Cell → List Cell
  | [], _ => []
  | none :: groups, cells => .null :: regroup groups cells
  | some items :: groups, cells =>
      .list (cells.take items.length) :: regroup groups (cells.drop items.length)

/-- The cells of a list of values, one after the other. -/
def encodeEach (encodeOne : Value → Except Error Cell) : List Value → Except Error (List Cell)
  | [] => .ok []
  | value :: rest =>
      match encodeOne value with
      | .error error => .error error
      | .ok cell => (encodeEach encodeOne rest).map (cell :: ·)

mutual

/-- The cells of a column of values.  A structure type without fields has no cells, so that a
column of it has no length to be compared with that of its values and cannot be built.  This is
taken to be so without values as well. -/
def encode : DataType → List Value → Except Error (List Cell)
  | .struct fields, values =>
      match encodeFields fields values with
      | .error error => .error error
      | .ok records =>
          if fields.isEmpty then .error .columnar
          else
            .ok (List.zipWith (fun (value : Value) (record : List Cell) =>
              if value.isNull then Cell.null else Cell.record record) values records)
  | .array element, values =>
      match arrayItems (.array element) values with
      | .error error => .error error
      | .ok groups =>
          (encode element (groups.flatMap fun group => group.getD [])).map (regroup groups)
  | .unresolved, values => .ok (values.map fun _ => .null)
  | type, values => encodeEach (encodeScalar type) values

/-- The members of the records in a column, one record for each value.  A value that is
not a structure, or lacks a field, has no member there. -/
def encodeFields : List (String × DataType) → List Value → Except Error (List (List Cell))
  | [], values => .ok (values.map fun _ => [])
  | (name, type) :: fields, values =>
      match encode type (values.map fun value => (value.field? name).getD .null) with
      | .error error => .error error
      | .ok column => (encodeFields fields values).map (List.zipWith List.cons column)

end

end DataType

end ScalarSql
