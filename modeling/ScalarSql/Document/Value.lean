import ScalarSql.Decimal.Text
import ScalarSql.Double.Arithmetic
import ScalarSql.Json.Conversion
import ScalarSql.Value.Basic

/-!
# Values in documents

A value is written as an object with one member, which is named for the kind of value;
`NULL` is written as null.  Long integers and decimals are texts, so that nothing is lost
where numbers are taken for doubles, and a double is the text of its bits.
-/

set_option autoImplicit false

namespace ScalarSql

/-! ## Doubles -/

namespace Double

/-- The sixteen hexadecimal digits of the bits of a double; all values that are no number
are written alike. -/
def bitsText : Double → String
  | .nan => "nan"
  | number =>
      let digits := Nat.toDigits 16 number.toBits
      String.ofList (List.replicate (16 - digits.length) '0' ++ digits)

/-- The value of a hexadecimal digit in lower case. -/
def hexValue? (c : Char) : Option Nat :=
  if '0' ≤ c && c ≤ '9' then some (c.toNat - '0'.toNat)
  else if 'a' ≤ c && c ≤ 'f' then some (c.toNat - 'a'.toNat + 10)
  else none

/-- The double with the given text of its bits. -/
def ofBitsText? (text : String) : Option Double :=
  if text == "nan" then some .nan
  else
    (text.toList.mapM hexValue?).map fun digits =>
      ofBits (digits.foldl (fun value digit => value * 16 + digit) 0)

end Double

instance : ToJson Double := ⟨fun number => .string number.bitsText⟩

instance : FromJson Double := ⟨fun json => (fromJson? json).bind Double.ofBitsText?⟩

instance : ToJson Decimal := ⟨fun number => .string number.text⟩

instance : FromJson Decimal := ⟨fun json => (fromJson? json).bind Decimal.read?⟩

instance {bits : Nat} : FromJson (BoundedInt bits) :=
  ⟨fun json => json.integer?.bind BoundedInt.ofInt?⟩

instance : ToJson (BoundedInt 32) := ⟨fun number => .ofInt number.val⟩

instance : ToJson (BoundedInt 64) := ⟨fun number => .string number.text⟩

/-! ## Values -/

namespace Value

mutual

/-- The document for a value. -/
def toDocument : Value → Json
  | .null => .null
  | .int number => .object [("int", toJson number)]
  | .long number => .object [("long", toJson number)]
  | .double number => .object [("double", toJson number)]
  | .string text => .object [("str", toJson text)]
  | .boolean truth => .object [("bool", toJson truth)]
  | .decimal number => .object [("dec", toJson number)]
  | .struct members => .object [("struct", .array (memberDocuments members))]
  | .array items => .object [("array", .array (itemDocuments items))]

/-- The documents of members, each a pair of a name and a value. -/
def memberDocuments : List (String × Value) → List Json
  | [] => []
  | (name, value) :: rest => .array [toJson name, value.toDocument] :: memberDocuments rest

/-- The documents of the items of an array. -/
def itemDocuments : List Value → List Json
  | [] => []
  | value :: rest => value.toDocument :: itemDocuments rest

end

mutual

/-- The value that a document gives. -/
def ofDocument? : Json → Option Value
  | .null => some .null
  | .object [(kind, content)] => ofContent? kind content
  | _ => none

/-- The value of the given kind. -/
def ofContent? (kind : String) : Json → Option Value
  | .array items =>
      if kind == "struct" then (membersOf? items).map .struct
      else if kind == "array" then (itemsOf? items).map .array
      else none
  | content =>
      if kind == "int" then (fromJson? content).map .int
      else if kind == "long" then (fromJson? content).map .long
      else if kind == "double" then (fromJson? content).map .double
      else if kind == "str" then (fromJson? content).map .string
      else if kind == "bool" then (fromJson? content).map .boolean
      else if kind == "dec" then (fromJson? content).map .decimal
      else none

/-- The members of a structure. -/
def membersOf? : List Json → Option (List (String × Value))
  | [] => some []
  | .array [.string name, content] :: rest =>
      (ofDocument? content).bind fun value => (membersOf? rest).map ((name, value) :: ·)
  | _ => none

/-- The items of an array. -/
def itemsOf? : List Json → Option (List Value)
  | [] => some []
  | item :: rest => (ofDocument? item).bind fun value => (itemsOf? rest).map (value :: ·)

end

end Value

instance : ToJson Value := ⟨Value.toDocument⟩

instance : FromJson Value := ⟨Value.ofDocument?⟩

end ScalarSql
