import ScalarSql.Decimal.Conversion
import ScalarSql.Value.Basic

/-!
# Comparing values

Three notions of sameness live side by side.  `Value.compare?` is the comparison of SQL:
it crosses the numeric types, has no answer for `NULL`, and looks at the members of
structures by position.  `Value.sortOrder` completes it for `ORDER BY`.  `Value.same` and
`Value.hashWords` together say when two values are one key of `GROUP BY`: the variant
counts, and so do member names.
-/

set_option autoImplicit false

namespace ScalarSql

/-- A number of any of the numeric types, seen for comparison. -/
inductive Number where
  | whole (value : BoundedInt 64)
  | decimal (value : Decimal)
  | float (value : Double)

namespace Number

/-- The number as a double. -/
def toDouble : Number → Double
  | .whole value => Double.ofInt value.val
  | .decimal value => value.toDouble
  | .float value => value

/-- The order of two numbers: on doubles as soon as one of them is a double, and exact
otherwise. -/
def compare? : Number → Number → Option Ordering
  | .whole left, .whole right => some (compare left.val right.val)
  | .whole left, .decimal right => some (Decimal.compareNumber (.ofLong left) right)
  | .decimal left, .whole right => some (Decimal.compareNumber left (.ofLong right))
  | .decimal left, .decimal right => some (Decimal.compareNumber left right)
  | .float left, .float right => Double.compare? left right
  | .float left, right => Double.compare? left right.toDouble
  | left, .float right => Double.compare? left.toDouble right

end Number

namespace Value

/-- The number in a value of a numeric type. -/
def number? : Value → Option Number
  | .int value => some (.whole value.widen)
  | .long value => some (.whole value)
  | .decimal value => some (.decimal value)
  | .double value => some (.float value)
  | _ => none

mutual

/-- The order of two values, undefined for `NULL` and for types that do not compare.  Two
structures compare by their first members that differ, and an undefined comparison of
members before that leaves the whole undefined. -/
def compare? : Value → Value → Option Ordering
  | .null, _ => none
  | _, .null => none
  | .string left, .string right => some (compare left right)
  | .boolean left, .boolean right => some (compare left right)
  | .struct left, .struct right => compareMembers? left right
  | left, right =>
      match left.number?, right.number? with
      | some leftNumber, some rightNumber => leftNumber.compare? rightNumber
      | _, _ => none

/-- The order of members by position; of two lists that agree as far as they go the
shorter one is below. -/
def compareMembers? : List (String × Value) → List (String × Value) → Option Ordering
  | [], [] => some .eq
  | [], _ :: _ => some .lt
  | _ :: _, [] => some .gt
  | (_, left) :: lefts, (_, right) :: rights =>
      match compare? left right with
      | none => none
      | some .eq => compareMembers? lefts rights
      | some order => some order

end

/-- The order of `ORDER BY`: `NULL` comes first, and values that do not compare tie. -/
def sortOrder (left right : Value) : Ordering :=
  match left.isNull, right.isNull with
  | true, true => .eq
  | true, false => .lt
  | false, true => .gt
  | false, false => (compare? left right).getD .eq

mutual

/-- Whether two values are equal as keys, before hashing is considered: doubles and
decimals as numbers, everything else exactly. -/
def same : Value → Value → Bool
  | .null, .null => true
  | .int left, .int right => left.val == right.val
  | .long left, .long right => left.val == right.val
  | .double left, .double right => Double.sameNumber left right
  | .string left, .string right => left == right
  | .boolean left, .boolean right => left == right
  | .decimal left, .decimal right => Decimal.sameNumber left right
  | .struct left, .struct right => sameMembers left right
  | .array left, .array right => sameItems left right
  | _, _ => false

/-- Whether members are equal as keys, names included. -/
def sameMembers : List (String × Value) → List (String × Value) → Bool
  | [], [] => true
  | (leftName, left) :: lefts, (rightName, right) :: rights =>
      leftName == rightName && same left right && sameMembers lefts rights
  | _, _ => false

/-- Whether items are equal as keys, in order. -/
def sameItems : List Value → List Value → Bool
  | [], [] => true
  | left :: lefts, right :: rights => same left right && sameItems lefts rights
  | _, _ => false

end

/-- One word of the data that a hash is computed from. -/
inductive HashWord where
  | variant (index : Nat)
  | number (value : Int)
  | bits (value : Nat)
  | text (value : String)
  | truth (value : Bool)
  | decimal (negative : Bool) (coefficient scale : Nat)
  | count (value : Nat)
  deriving DecidableEq

mutual

/-- The data that the hash of a value is computed from.  Doubles contribute their bits,
decimals their parts without trailing zeros. -/
def hashWords : Value → List HashWord
  | .null => [.variant 0]
  | .int value => [.variant 1, .number value.val]
  | .long value => [.variant 2, .number value.val]
  | .double value => [.variant 3, .bits value.toBits]
  | .string value => [.variant 4, .text value]
  | .boolean value => [.variant 5, .truth value]
  | .decimal value =>
      [.variant 6, .decimal value.normalized.negative value.normalized.coefficient
        value.normalized.scale]
  | .struct members => .variant 7 :: .count members.length :: memberWords members
  | .array items => .variant 8 :: .count items.length :: itemWords items

/-- The data that members contribute to a hash. -/
def memberWords : List (String × Value) → List HashWord
  | [] => []
  | (name, value) :: rest => .text name :: (value.hashWords ++ memberWords rest)

/-- The data that items contribute to a hash. -/
def itemWords : List Value → List HashWord
  | [] => []
  | item :: rest => item.hashWords ++ itemWords rest

end

/-- Whether two values are one key of a hash table: they hash alike and are equal.  A table may
also find values that are equal but hash apart, if their hashes happen to meet in it; here they
never meet, which is one of the ways it may behave. -/
def sameKey (left right : Value) : Bool :=
  left.hashWords == right.hashWords && same left right

end Value

end ScalarSql
