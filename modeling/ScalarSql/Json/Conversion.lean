import ScalarSql.Json.Access

/-!
# Conversion to and from JSON

Types whose data has a JSON form.  Where a part of a document may be left out, null stands
for what is missing: no list is an empty one, no mark is a false one, and no text is no
text.
-/

set_option autoImplicit false

namespace ScalarSql

/-- Data that can be written as JSON. -/
class ToJson (α : Type) where
  toJson : α → Json

/-- Data that can be read from JSON. -/
class FromJson (α : Type) where
  fromJson? : Json → Option α

export ToJson (toJson)
export FromJson (fromJson?)

/-- The member of an object under a name, read as data. -/
def Json.get? {α : Type} [FromJson α] (json : Json) (name : String) : Option α :=
  fromJson? (json.member name)

/-- Items read one after the other. -/
def FromJson.all? {α : Type} [FromJson α] : List Json → Option (List α)
  | [] => some []
  | item :: rest =>
      (fromJson? item).bind fun first => (FromJson.all? rest).map (first :: ·)

section Instances

variable {α β : Type}

instance : ToJson Json := ⟨id⟩
instance : ToJson String := ⟨.string⟩
instance : ToJson Bool := ⟨.bool⟩
instance : ToJson Nat := ⟨.ofNat⟩
instance : ToJson Int := ⟨.ofInt⟩
instance [ToJson α] : ToJson (Option α) := ⟨fun value => (value.map toJson).getD .null⟩
instance [ToJson α] : ToJson (List α) := ⟨fun values => .array (values.map toJson)⟩
instance [ToJson α] [ToJson β] : ToJson (α × β) :=
  ⟨fun pair => .array [toJson pair.1, toJson pair.2]⟩

instance : FromJson Json := ⟨some⟩

instance : FromJson String where
  fromJson?
    | .string text => some text
    | _ => none

instance : FromJson Bool where
  fromJson?
    | .bool value => some value
    | .null => some false
    | _ => none

instance : FromJson Int := ⟨Json.integer?⟩

instance : FromJson Nat where
  fromJson? json := json.integer?.bind fun value => if value < 0 then none else some value.toNat

instance [FromJson α] : FromJson (Option α) where
  fromJson?
    | .null => some none
    | json => (fromJson? json).map some

instance [FromJson α] : FromJson (List α) where
  fromJson?
    | .array items => FromJson.all? items
    | .null => some []
    | _ => none

instance [FromJson α] [FromJson β] : FromJson (α × β) where
  fromJson?
    | .array [first, second] =>
        (fromJson? first).bind fun left => (fromJson? second).map fun right => (left, right)
    | _ => none

end Instances

end ScalarSql
