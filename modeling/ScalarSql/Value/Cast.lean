import ScalarSql.Value.Arithmetic

/-!
# Casts

`Value.castTo` is the meaning of `CAST`.  A value that already shows the target type is
left alone, and so is `NULL`.  Turning a decimal into an integer drops the fraction,
unless the cast is checked, in which case the fraction must be zero; both read
`Decimal.narrow?`, which analysis also uses for literals.
-/

set_option autoImplicit false

namespace ScalarSql

/-- What may happen to the fraction of a decimal that becomes an integer. -/
inductive Narrowing where
  | exact
  | truncate
  deriving DecidableEq

namespace Narrowing

/-- The name of the policy. -/
def text : Narrowing → String
  | .exact => "exact"
  | .truncate => "truncate"

/-- The policy that a checked or unchecked cast applies. -/
def ofChecked (checked : Bool) : Narrowing :=
  if checked then .exact else .truncate

end Narrowing

/-- The decimal as a value of an integer type, if the policy allows it and the integer is
in range. -/
def Decimal.narrow? (d : Decimal) (target : DataType) (policy : Narrowing) : Option Value :=
  if policy == .exact && !d.isIntegral then none
  else
    match target with
    | .int => (BoundedInt.ofInt? d.truncated).map .int
    | .long => (BoundedInt.ofInt? d.truncated).map .long
    | _ => none

namespace Value

/-- The value of a basic type that a text writes. -/
def read? (text : String) : DataType → Option Value
  | .int => ((readInt? text.toList).bind BoundedInt.ofInt?).map .int
  | .long => ((readInt? text.toList).bind BoundedInt.ofInt?).map .long
  | .double => (Double.read? text).map .double
  | .decimal => (Decimal.read? text).map .decimal
  | .boolean =>
      let lowered := String.ofList (text.toList.map Char.toLower)
      if lowered == "true" || lowered == "t" || lowered == "1" then some (.boolean true)
      else if lowered == "false" || lowered == "f" || lowered == "0" then some (.boolean false)
      else none
  | _ => none

/-- The error for a value without a counterpart in the target type. -/
def castError (value : Value) (target : DataType) : Error :=
  .evaluation (.cannotCast value.text target)

/-- A value found in the target type, or the cast error. -/
def castResult (value : Value) (target : DataType) : Option Value → Except Error Value
  | some result => .ok result
  | none => .error (value.castError target)

/-- The cast of a value that is not `NULL` to a type other than its own. -/
def convertTo (value : Value) (target : DataType) (checked : Bool) : Except Error Value :=
  match value, target with
  | .decimal d, .int | .decimal d, .long =>
      match d.narrow? target (.ofChecked checked) with
      | some result => .ok result
      | none => .error (.evaluation (.inexactNarrowing d.text target))
  | .int _, .double | .long _, .double | .double _, .double | .decimal _, .double =>
      value.toDouble.map .double
  | .int _, .decimal | .long _, .decimal | .double _, .decimal => value.toDecimal.map .decimal
  | .int number, .long => .ok (.long number.widen)
  | .long number, .int => castResult value target ((BoundedInt.ofInt? number.val).map .int)
  | .double number, .int =>
      castResult value target ((number.truncate?.bind BoundedInt.ofInt?).map .int)
  | .double number, .long =>
      castResult value target ((number.truncate?.bind BoundedInt.ofInt?).map .long)
  | .string text, _ => castResult value target (read? (Text.trim text) target)
  | .int _, .string | .long _, .string | .double _, .string | .decimal _, .string
  | .boolean _, .string => .ok (.string value.text)
  | _, _ => .error (value.castError target)

/-- The value of `CAST`. -/
def castTo (value : Value) (target : DataType) (checked : Bool) : Except Error Value :=
  if value.isNull || target == .unresolved || value.ownType == target then .ok value
  else value.convertTo target checked

end Value

end ScalarSql
