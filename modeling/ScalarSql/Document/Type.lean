import ScalarSql.Columnar.Basic
import ScalarSql.Document.Value
import ScalarSql.Schema

/-!
# Types and tables in documents

A type without parts is written as its name.  A structure type lists its fields as pairs
of a name and a type.  In an answer a type is the text that users see.
-/

set_option autoImplicit false

namespace ScalarSql

/-! ## Types of values -/

namespace DataType

/-- The types without parts. -/
def plain : List DataType :=
  [.int, .long, .double, .string, .boolean, .decimal, .unresolved]

mutual

/-- The type that a document gives. -/
def ofDocument? : Json → Option DataType
  | .string name => plain.find? fun type => type.text == name
  | .object [("struct", .array fields)] => (fieldsOf? fields).map .struct
  | .object [("array", element)] => (ofDocument? element).map .array
  | _ => none

/-- The fields of a structure type. -/
def fieldsOf? : List Json → Option (List (String × DataType))
  | [] => some []
  | .array [.string name, content] :: rest =>
      (ofDocument? content).bind fun type => (fieldsOf? rest).map ((name, type) :: ·)
  | _ => none

end

end DataType

instance : ToJson DataType := ⟨fun type => .string type.text⟩

instance : FromJson DataType := ⟨DataType.ofDocument?⟩

/-! ## Types of columns -/

namespace ColumnType

/-- The column types without parameters. -/
def plain : List ColumnType :=
  [.int16, .int32, .int64, .uint32, .float32, .float64, .utf8, .largeUtf8, .boolean, .date32,
    .null]

mutual

/-- The document for a column type. -/
def toDocument : ColumnType → Json
  | .decimal128 precision scale =>
      .object [("Decimal128", .array [toJson precision, toJson scale])]
  | .struct fields => .object [("Struct", .array (fieldDocuments fields))]
  | .list element => .object [("List", element.toDocument)]
  | type => .string type.name

/-- The documents of the fields of a record, each a pair of a name and a type. -/
def fieldDocuments : List (String × ColumnType) → List Json
  | [] => []
  | (name, type) :: rest => .array [toJson name, type.toDocument] :: fieldDocuments rest

end

mutual

/-- The column type that a document gives. -/
def ofDocument? : Json → Option ColumnType
  | .string name => plain.find? fun type => type.name == name
  | .object [("Decimal128", .array [precision, scale])] =>
      (fromJson? precision).bind fun digits => scale.integer?.map (.decimal128 digits)
  | .object [("Struct", .array fields)] => (fieldsOf? fields).map .struct
  | .object [("List", element)] => (ofDocument? element).map .list
  | _ => none

/-- The fields of a structure type. -/
def fieldsOf? : List Json → Option (List (String × ColumnType))
  | [] => some []
  | .array [.string name, content] :: rest =>
      (ofDocument? content).bind fun type => (fieldsOf? rest).map ((name, type) :: ·)
  | _ => none

end

end ColumnType

instance : ToJson ColumnType := ⟨ColumnType.toDocument⟩

instance : FromJson ColumnType := ⟨ColumnType.ofDocument?⟩

/-! ## Cells -/

namespace Cell

/-- Cells read one after the other. -/
def all? (readOne : Json → Option Cell) : List Json → Option (List Cell)
  | [] => some []
  | item :: rest => (readOne item).bind fun first => (all? readOne rest).map (first :: ·)

/-- The cell of a column without parts. -/
def ofPlain? (type : ColumnType) (json : Json) : Option Cell :=
  match type with
  | .float32 | .float64 => (fromJson? json).map .real
  | .utf8 | .largeUtf8 => (fromJson? json).map .text
  | .boolean => (fromJson? json).map .truth
  | _ => json.integer?.map .number

mutual

/-- The cell of a column that a document gives. -/
def ofDocument? : ColumnType → Json → Option Cell
  | _, .null => some .null
  | .struct fields, .array items => (membersOf? fields items).map .record
  | .list element, .array items => (all? (fun item => ofDocument? element item) items).map .list
  | type, json => ofPlain? type json

/-- The cells of the members of a record. -/
def membersOf? : List (String × ColumnType) → List Json → Option (List Cell)
  | (_, type) :: fields, item :: items =>
      (ofDocument? type item).bind fun first => (membersOf? fields items).map (first :: ·)
  | _, _ => some []

end

end Cell

/-! ## Columns and schemas -/

instance : ToJson Column := ⟨fun column => toJson (column.name, column.type)⟩

instance : FromJson Column where
  fromJson? json := (fromJson? json).map fun (name, type) => { name, type }

instance : ToJson Schema where
  toJson schema :=
    .object [("columns", toJson schema.columns), ("qualifiers", toJson schema.qualifiers)]

instance : FromJson Schema where
  fromJson? json := do
    let columns ← json.get? "columns"
    let qualifiers ← json.get? "qualifiers"
    pure { columns, qualifiers }

end ScalarSql
