import ScalarSql.Function.Builtin
import ScalarSql.Json.Basic

/-!
# Descriptions of functions

Types and signatures as JSON values, for tools that list the functions of a session.
-/

set_option autoImplicit false

namespace ScalarSql

namespace DataType

mutual

/-- The description of a type. -/
def description : DataType → Json
  | .int => .string "Integer"
  | .long => .string "Long"
  | .double => .string "Double"
  | .string => .string "String"
  | .boolean => .string "Boolean"
  | .decimal => .string "Decimal"
  | .struct fields => .object [("Struct", .array (fieldDescriptions fields))]
  | .array element => .object [("Array", element.description)]
  | .unresolved => .string "Unresolved"

/-- The descriptions of the fields of a structure. -/
def fieldDescriptions : List (String × DataType) → List Json
  | [] => []
  | (name, type) :: rest =>
      .object [("name", .string name), ("data_type", type.description)] :: fieldDescriptions rest

end

end DataType

/-- The description of an arity. -/
def Arity.description : Arity → Json
  | .fixed count => .object [("Fixed", .ofNat count)]
  | .variadic least => .object [("Variadic", .object [("min", .ofNat least)])]

/-- The description of a signature. -/
def Signature.description (signature : Signature) : Json :=
  .object
    [("name", .string signature.name),
      ("params", .array (signature.parameters.map DataType.description)),
      ("return_type", signature.returnType.description),
      ("arity", signature.arity.description)]

/-- The descriptions of all functions in listing order. -/
def Registry.description (registry : Registry) : Json :=
  .array (registry.describe.map Signature.description)

/-- The description of registered functions next to the built-in ones. -/
def Registry.catalogDescription (registry builtin : Registry) : Json :=
  .object [("user", registry.description), ("builtin", builtin.description)]

end ScalarSql
