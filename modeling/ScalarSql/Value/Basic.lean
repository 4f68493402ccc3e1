import ScalarSql.Decimal.Text
import ScalarSql.Double.Shortest
import ScalarSql.Error

/-!
# Values

The values of rows, arguments and results.  `NULL` belongs to every type.  A structure
value carries the names of its members, which agree with the declared field names up to
the case of ASCII letters; `Value.hasType` is this relation between values and types,
while `Value.ownType` is the best description of a value that has no declared type.
-/

set_option autoImplicit false

namespace ScalarSql

/-- A value. -/
inductive Value where
  | null
  | int (value : BoundedInt 32)
  | long (value : BoundedInt 64)
  | double (value : Double)
  | string (value : String)
  | boolean (value : Bool)
  | decimal (value : Decimal)
  /-- An ordered list of named members. -/
  | struct (members : List (String × Value))
  | array (items : List Value)
  deriving Inhabited

namespace Value

/-- Whether the value is `NULL`. -/
def isNull : Value → Bool
  | .null => true
  | _ => false

/-! ## Types -/

mutual

/-- The type that can be read off a value: an array has the type of its first item that
is not `NULL`. -/
def ownType : Value → DataType
  | .null => .unresolved
  | .int _ => .int
  | .long _ => .long
  | .double _ => .double
  | .string _ => .string
  | .boolean _ => .boolean
  | .decimal _ => .decimal
  | .struct members => .struct (memberTypes members)
  | .array items => .array (itemType items)

/-- The fields that can be read off members. -/
def memberTypes : List (String × Value) → List (String × DataType)
  | [] => []
  | (name, value) :: rest => (name, value.ownType) :: memberTypes rest

/-- The type of the first item that is not `NULL`. -/
def itemType : List Value → DataType
  | [] => .unresolved
  | item :: rest => if item.isNull then itemType rest else item.ownType

end

mutual

/-- Whether a value may stand where a type is declared. -/
def hasType : Value → DataType → Bool
  | .null, _ => true
  | .int _, .int => true
  | .long _, .long => true
  | .double _, .double => true
  | .string _, .string => true
  | .boolean _, .boolean => true
  | .decimal _, .decimal => true
  | .struct members, .struct fields => membersHaveType members fields
  | .array items, .array element => itemsHaveType items element
  | _, _ => false

/-- Whether members may stand where fields are declared: the names agree in order, and
each value has the type of its field. -/
def membersHaveType : List (String × Value) → List (String × DataType) → Bool
  | [], [] => true
  | (name, value) :: members, (field, type) :: fields =>
      Text.sameName name field && value.hasType type && membersHaveType members fields
  | _, _ => false

/-- Whether all items may stand where a type is declared. -/
def itemsHaveType : List Value → DataType → Bool
  | [], _ => true
  | item :: rest, type => item.hasType type && itemsHaveType rest type

end

/-- The error for a value of another type than the one expected. -/
def mismatch (value : Value) (expected : String) : Error :=
  .typeMismatch expected value.ownType.text

/-- The 32-bit integer in a value. -/
def asInt : Value → Except Error (BoundedInt 32)
  | .int value => .ok value
  | other => .error (other.mismatch "INT")

/-- The 64-bit integer in a value; 32 bits are widened. -/
def asLong : Value → Except Error (BoundedInt 64)
  | .long value => .ok value
  | .int value => .ok value.widen
  | other => .error (other.mismatch "BIGINT")

/-- The double in a value. -/
def asDouble : Value → Except Error Double
  | .double value => .ok value
  | other => .error (other.mismatch "DOUBLE")

/-- The text in a value. -/
def asString : Value → Except Error String
  | .string value => .ok value
  | other => .error (other.mismatch "STRING")

/-- The truth value in a value. -/
def asBoolean : Value → Except Error Bool
  | .boolean value => .ok value
  | other => .error (other.mismatch "BOOLEAN")

/-- The decimal in a value. -/
def asDecimal : Value → Except Error Decimal
  | .decimal value => .ok value
  | other => .error (other.mismatch "DECIMAL")

/-- The member of a structure with the given name; the first one wins. -/
def field? : Value → String → Option Value
  | .struct members, name => (DataType.findNamed? name members).map Prod.snd
  | _, _ => none

/-! ## Text -/

mutual

/-- The text of a value, as a cast to `STRING` shows it. -/
def text : Value → String
  | .null => "NULL"
  | .int value => value.text
  | .long value => value.text
  | .double value => value.text
  | .string value => value
  | .boolean value => if value then "true" else "false"
  | .decimal value => value.text
  | .struct members => "\x7b" ++ ", ".intercalate (memberTexts members) ++ "\x7d"
  | .array items => "[" ++ ", ".intercalate (itemTexts items) ++ "]"

/-- The texts of members, each a name and a value. -/
def memberTexts : List (String × Value) → List String
  | [] => []
  | (name, value) :: rest => (name ++ ": " ++ value.text) :: memberTexts rest

/-- The texts of items. -/
def itemTexts : List Value → List String
  | [] => []
  | item :: rest => item.text :: itemTexts rest

end

end Value

end ScalarSql
