import ScalarSql.Function.Callable

/-!
# Functions over typed data

A host type describes the data a typed function works on: numbers, texts and truth values,
optional data, lists, and records with named fields.  `HostType.encode` and
`HostType.decode` go between such data and values.  A record is written field by field in
declaration order and read by field name.  A typed function needs no signature of its own,
because `HostType.dataType` and `HostType.isNullable` determine it.
-/

set_option autoImplicit false

namespace ScalarSql

/-- A type of data outside queries. -/
inductive HostType where
  | int
  | long
  | double
  | string
  | boolean
  | decimal
  | optional (inner : HostType)
  | list (element : HostType)
  | record (fields : List (String × HostType))
  deriving Inhabited

namespace HostType

mutual

/-- The data of a host type. -/
def Carrier : HostType → Type
  | .int => BoundedInt 32
  | .long => BoundedInt 64
  | .double => Double
  | .string => String
  | .boolean => Bool
  | .decimal => Decimal
  | .optional inner => Option inner.Carrier
  | .list element => List element.Carrier
  | .record fields => FieldCarrier fields

/-- The data of the fields of a record, one after the other. -/
def FieldCarrier : List (String × HostType) → Type
  | [] => Unit
  | (_, type) :: rest => type.Carrier × FieldCarrier rest

end

mutual

/-- The type of the values that the data is written as. -/
def dataType : HostType → DataType
  | .int => .int
  | .long => .long
  | .double => .double
  | .string => .string
  | .boolean => .boolean
  | .decimal => .decimal
  | .optional inner => inner.dataType
  | .list element => .array element.dataType
  | .record fields => .struct (fieldTypes fields)

/-- The types of the values that fields are passed as. -/
def fieldTypes : List (String × HostType) → List (String × DataType)
  | [] => []
  | (name, type) :: rest => (name, type.dataType) :: fieldTypes rest

end

/-- Whether `NULL` is data of the type. -/
def isNullable : HostType → Bool
  | .optional _ => true
  | _ => false

mutual

/-- The value for data. -/
def encode : (type : HostType) → type.Carrier → Value
  | .int, data => .int data
  | .long, data => .long data
  | .double, data => .double data
  | .string, data => .string data
  | .boolean, data => .boolean data
  | .decimal, data => .decimal data
  | .optional inner, data =>
      match data with
      | none => .null
      | some present => inner.encode present
  | .list element, data => .array (List.map (element.encode ·) data)
  | .record fields, data => .struct (encodeFields fields data)

/-- The members for the data of the fields of a record. -/
def encodeFields : (fields : List (String × HostType)) → FieldCarrier fields →
    List (String × Value)
  | [], _ => []
  | (name, type) :: rest, data => (name, type.encode data.1) :: encodeFields rest data.2

end

/-- The items of a list decoded one after the other. -/
def decodeEach {α : Type} (decodeOne : Value → Except Error α) : List Value →
    Except Error (List α)
  | [] => .ok []
  | value :: rest =>
      match decodeOne value with
      | .error error => .error error
      | .ok data => (decodeEach decodeOne rest).map (data :: ·)

mutual

/-- The data that a value stands for.  Numbers are not converted: the value must be of
the very type. -/
def decode : (type : HostType) → Value → Except Error type.Carrier
  | .int, value =>
      match value with
      | .int data => .ok data
      | other => .error (other.mismatch "INT")
  | .long, value =>
      match value with
      | .long data => .ok data
      | other => .error (other.mismatch "BIGINT")
  | .double, value =>
      match value with
      | .double data => .ok data
      | other => .error (other.mismatch "DOUBLE")
  | .string, value =>
      match value with
      | .string data => .ok data
      | other => .error (other.mismatch "STRING")
  | .boolean, value =>
      match value with
      | .boolean data => .ok data
      | other => .error (other.mismatch "BOOLEAN")
  | .decimal, value =>
      match value with
      | .decimal data => .ok data
      | other => .error (other.mismatch "DECIMAL")
  | .optional inner, value =>
      match value with
      | .null => .ok none
      | present => (inner.decode present).map some
  | .list element, value =>
      match value with
      | .array items => decodeEach (element.decode ·) items
      | other => .error (other.mismatch "ARRAY")
  | .record fields, value => decodeFields fields value

/-- The fields of a record, read from the value in declaration order. -/
def decodeFields : (fields : List (String × HostType)) → Value →
    Except Error (FieldCarrier fields)
  | [], _ => .ok ()
  | (name, type) :: rest, value =>
      match value with
      | .struct members =>
          match (Value.struct members).field? name with
          | none =>
              .error ((Value.struct members).mismatch ("struct with field '" ++ name ++ "'"))
          | some member =>
              match type.decode member with
              | .error error => .error error
              | .ok data => (decodeFields rest (.struct members)).map (data, ·)
      | other => .error (other.mismatch "STRUCT")

end

/-! ## Typed functions -/

/-- The data of a list of arguments. -/
def Arguments : List HostType → Type
  | [] => Unit
  | type :: rest => type.Carrier × Arguments rest

/-- The values for a list of arguments. -/
def encodeArguments : (types : List HostType) → Arguments types → List Value
  | [], _ => []
  | type :: rest, data => type.encode data.1 :: encodeArguments rest data.2

/-- The data of the arguments of a call, or the message why there is none. -/
def decodeArguments : (types : List HostType) → List Value → Except String (Arguments types)
  | [], _ => .ok ()
  | _ :: _, [] => .error "missing argument"
  | type :: rest, value :: values =>
      match type.decode value with
      | .error error => .error error.message
      | .ok data => (decodeArguments rest values).map (data, ·)

end HostType

/-- The scalar function of a typed function, whose signature follows from its types. -/
def ScalarFunction.typed (name : String) (parameters : List HostType) (result : HostType)
    (body : HostType.Arguments parameters → Outcome result.Carrier) :
    Except Error ScalarFunction :=
  (Signature.declareFixed name (parameters.map HostType.dataType) result.dataType).map
    fun signature =>
      { signature
        nullable := parameters.map HostType.isNullable
        deterministic := true
        body := fun arguments =>
          match HostType.decodeArguments parameters arguments with
          | .error message => .failure message
          | .ok data => (body data).map (HostType.encode result) }

end ScalarSql
