import ScalarSql.Text.Letter

/-!
# Types of values

The closed set of types that columns, expressions and function signatures have.  A
structure type lists its fields in order and the order is part of the type; names are
looked up without regard to the case of ASCII letters, and the first field of a name
wins.  `DataType.check` says which types a signature may mention: they contain no
unresolved part, and every structure has at least one field and no two of the same name.
-/

set_option autoImplicit false

namespace ScalarSql

/-- The type of a value, a column or an expression. -/
inductive DataType where
  | int
  | long
  | double
  | string
  | boolean
  | decimal
  /-- An ordered list of named fields. -/
  | struct (fields : List (String × DataType))
  | array (element : DataType)
  /-- Not known yet, as for a bare `NULL`. -/
  | unresolved
  deriving Inhabited

namespace DataType

/-! ## Equality -/

mutual

/-- Whether two types are the same, field names included. -/
def same : DataType → DataType → Bool
  | .int, .int => true
  | .long, .long => true
  | .double, .double => true
  | .string, .string => true
  | .boolean, .boolean => true
  | .decimal, .decimal => true
  | .struct left, .struct right => sameFields left right
  | .array left, .array right => same left right
  | .unresolved, .unresolved => true
  | _, _ => false

/-- Whether two lists of fields agree in names and types, in order. -/
def sameFields : List (String × DataType) → List (String × DataType) → Bool
  | [], [] => true
  | (leftName, leftType) :: left, (rightName, rightType) :: right =>
      leftName == rightName && same leftType rightType && sameFields left right
  | _, _ => false

end

mutual

theorem same_iff : ∀ left right : DataType, same left right = true ↔ left = right
  | .int, right => by cases right <;> simp [same]
  | .long, right => by cases right <;> simp [same]
  | .double, right => by cases right <;> simp [same]
  | .string, right => by cases right <;> simp [same]
  | .boolean, right => by cases right <;> simp [same]
  | .decimal, right => by cases right <;> simp [same]
  | .unresolved, right => by cases right <;> simp [same]
  | .struct left, right => by
      cases right with
      | struct right => simp [same, sameFields_iff left right]
      | _ => simp [same]
  | .array left, right => by
      cases right with
      | array right => simp [same, same_iff left right]
      | _ => simp [same]

theorem sameFields_iff : ∀ left right : List (String × DataType),
    sameFields left right = true ↔ left = right
  | [], right => by cases right <;> simp [sameFields]
  | _ :: _, [] => by simp [sameFields]
  | (_, leftType) :: left, (_, rightType) :: right => by
      simp [sameFields, same_iff leftType rightType, sameFields_iff left right, and_assoc]

end

instance : DecidableEq DataType :=
  fun left right => decidable_of_iff _ (same_iff left right)

/-! ## Classes of types -/

/-- Whether arithmetic applies to the type. -/
def isNumeric : DataType → Bool
  | .int | .long | .double | .decimal => true
  | _ => false

/-- Whether the type holds integers only. -/
def isIntegral : DataType → Bool
  | .int | .long => true
  | _ => false

/-- The place of a numeric type in the order of promotion. -/
def numericRank? : DataType → Option Nat
  | .int => some 0
  | .long => some 1
  | .decimal => some 2
  | .double => some 3
  | _ => none

mutual

/-- Whether any part of the type is unresolved. -/
def hasUnresolved : DataType → Bool
  | .unresolved => true
  | .struct fields => fieldsHaveUnresolved fields
  | .array element => element.hasUnresolved
  | _ => false

/-- Whether the type of a field contains an unresolved part. -/
def fieldsHaveUnresolved : List (String × DataType) → Bool
  | [] => false
  | (_, type) :: rest => type.hasUnresolved || fieldsHaveUnresolved rest

end

/-! ## Fields -/

/-- The first of a list of named things whose name is the given one, ignoring the case of
ASCII letters. -/
def findNamed? {α : Type} (name : String) (items : List (String × α)) : Option (String × α) :=
  items.find? fun item => Text.sameName item.1 name

/-- The fields of a structure type. -/
def fields? : DataType → Option (List (String × DataType))
  | .struct fields => some fields
  | _ => none

/-- The field of a structure type with the given name. -/
def field? (type : DataType) (name : String) : Option (String × DataType) :=
  type.fields?.bind (findNamed? name)

/-! ## Text -/

mutual

/-- The SQL spelling of a type. -/
def text : DataType → String
  | .int => "INT"
  | .long => "BIGINT"
  | .double => "DOUBLE"
  | .string => "STRING"
  | .boolean => "BOOLEAN"
  | .decimal => "DECIMAL"
  | .struct fields => "STRUCT<" ++ ", ".intercalate (fieldTexts fields) ++ ">"
  | .array element => "ARRAY<" ++ element.text ++ ">"
  | .unresolved => "UNRESOLVED"

/-- The texts of fields, each a name and a type. -/
def fieldTexts : List (String × DataType) → List String
  | [] => []
  | (name, type) :: rest => (name ++ ": " ++ type.text) :: fieldTexts rest

end

/-! ## Types that a signature may mention -/

/-- Why a type cannot stand in a signature. -/
inductive Fault where
  | unresolved
  | emptyStruct
  | duplicateField (name : String)
  | inField (name : String) (fault : Fault)
  deriving DecidableEq

/-- The wording of a fault. -/
def Fault.message : Fault → String
  | .unresolved => "type is unresolved"
  | .emptyStruct => "struct type must declare at least one field"
  | .duplicateField name => "duplicate struct field '" ++ name ++ "'"
  | .inField name fault => "field '" ++ name ++ "': " ++ fault.message

mutual

/-- Accepts the types that a signature may mention and otherwise names the first fault,
field by field; a repeated name is reported before the type of that field. -/
def check : DataType → Except Fault Unit
  | .unresolved => .error .unresolved
  | .struct [] => .error .emptyStruct
  | .struct (field :: rest) => checkFields [] (field :: rest)
  | .array element => element.check
  | _ => .ok ()

/-- The first fault among fields that follow fields with the names in `earlier`. -/
def checkFields (earlier : List String) : List (String × DataType) → Except Fault Unit
  | [] => .ok ()
  | (name, type) :: rest =>
      if earlier.any (Text.sameName · name) then .error (.duplicateField name)
      else
        match type.check with
        | .error fault => .error (.inField name fault)
        | .ok () => checkFields (name :: earlier) rest

end

end DataType

end ScalarSql
