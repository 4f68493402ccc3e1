import ScalarSql.Json.Basic
import ScalarSql.Number.Digits

/-!
# Looking into JSON values

Access to the parts of a JSON value, and its text on one line.  A member that is missing
counts as null.
-/

set_option autoImplicit false

namespace ScalarSql.Json

/-! ## Parts -/

/-- The first member of an object with the given name. -/
def member? (json : Json) (name : String) : Option Json :=
  match json with
  | .object members => members.lookup name
  | _ => none

/-- The member of an object with the given name, or null. -/
def member (json : Json) (name : String) : Json := (json.member? name).getD .null

/-- Whether an object has a member of the given name that is not null. -/
def has (json : Json) (name : String) : Bool :=
  match json.member name with
  | .null => false
  | _ => true

/-- The integer that a number or a text writes. -/
def integer? : Json → Option Int
  | .number text | .string text => readInt? text.toList
  | _ => none

/-- The number for an integer. -/
def ofInt (value : Int) : Json :=
  .number ((if value < 0 then "-" else "") ++ Nat.repr value.natAbs)

/-! ## Depth -/

mutual

/-- How many values are nested in one another. -/
def depth : Json → Nat
  | .array items => 1 + itemsDepth items
  | .object members => 1 + membersDepth members
  | _ => 1

/-- The greatest depth of several values; zero if there are none. -/
def itemsDepth : List Json → Nat
  | [] => 0
  | item :: rest => max item.depth (itemsDepth rest)

/-- The greatest depth of the values of several members; zero if there are none. -/
def membersDepth : List (String × Json) → Nat
  | [] => 0
  | (_, value) :: rest => max value.depth (membersDepth rest)

end

/-! ## Text -/

mutual

/-- The text of a value on one line, without blanks. -/
def compact : Json → String
  | .null => "null"
  | .bool value => if value then "true" else "false"
  | .number text => text
  | .string value => quoted value
  | .array items => "[" ++ ",".intercalate (compactItems items) ++ "]"
  | .object members => "\x7b" ++ ",".intercalate (compactMembers members) ++ "\x7d"

/-- The texts of several values. -/
def compactItems : List Json → List String
  | [] => []
  | item :: rest => item.compact :: compactItems rest

/-- The texts of several members, each a name and a value. -/
def compactMembers : List (String × Json) → List String
  | [] => []
  | (name, value) :: rest => (quoted name ++ ":" ++ value.compact) :: compactMembers rest

end

end ScalarSql.Json
