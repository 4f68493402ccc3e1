import ScalarSql.Operator
import ScalarSql.Value.Order

/-!
# Operators on values

Arithmetic takes the narrowest type that holds both operands: integers stay integers and
must not leave their range, a double makes the operation one on doubles, and everything
else is done with decimals.  Dividing by zero gives `NULL`, and so does every operator
with a `NULL` operand except the logical connectives, which are three-valued.
-/

set_option autoImplicit false

namespace ScalarSql

namespace Value

/-- The truth value in a value; anything else counts as unknown. -/
def truth? : Value → Option Bool
  | .boolean value => some value
  | _ => none

/-- An unknown truth value is `NULL`. -/
def ofTruth : Option Bool → Value
  | some value => .boolean value
  | none => .null

/-- The double for a number. -/
def toDouble : Value → Except Error Double
  | .int value => .ok (Double.ofInt value.val)
  | .long value => .ok (Double.ofInt value.val)
  | .double value => .ok value
  | .decimal value => .ok value.toDouble
  | other => .error (other.mismatch "numeric")

/-- The decimal for a number. -/
def toDecimal : Value → Except Error Decimal
  | .int value => .ok (.ofInt value)
  | .long value => .ok (.ofLong value)
  | .decimal value => .ok value
  | .double value =>
      match Decimal.ofDouble? value with
      | some result => .ok result
      | none => .error (.evaluation (.notRepresentable value.text))
  | other => .error (other.mismatch "numeric")

/-- The number with the other sign. -/
def negate : Value → Except Error Value
  | .null => .ok .null
  | .int value =>
      match BoundedInt.ofInt? (-value.val) with
      | some result => .ok (.int result)
      | none => .error (.evaluation (.numericOverflow "-"))
  | .long value =>
      match BoundedInt.ofInt? (-value.val) with
      | some result => .ok (.long result)
      | none => .error (.evaluation (.numericOverflow "-"))
  | .double value => .ok (.double value.neg)
  | .decimal value => .ok (.decimal value.neg)
  | other => .error (other.mismatch "numeric")

end Value

namespace Arithmetic

/-- The result on integers of one width, if it is in range.  A remainder also needs its
quotient to be in range. -/
def onIntegers? {bits : Nat} (op : Arithmetic) (left right : BoundedInt bits) :
    Option (BoundedInt bits) :=
  match op with
  | .add => BoundedInt.ofInt? (left.val + right.val)
  | .sub => BoundedInt.ofInt? (left.val - right.val)
  | .mul => BoundedInt.ofInt? (left.val * right.val)
  | .div => BoundedInt.ofInt? (left.val.tdiv right.val)
  | .rem =>
      (BoundedInt.ofInt? (left.val.tdiv right.val) : Option (BoundedInt bits)).bind fun _ =>
        BoundedInt.ofInt? (left.val.tmod right.val)

/-- The result on doubles. -/
def onDoubles (op : Arithmetic) (left right : Double) : Double :=
  match op with
  | .add => left.add right
  | .sub => left.sub right
  | .mul => left.mul right
  | .div => left.div right
  | .rem => left.rem right

/-- The result on decimals, if there is room for it. -/
def onDecimals? (op : Arithmetic) (left right : Decimal) : Option Decimal :=
  match op with
  | .add => left.add? right
  | .sub => left.sub? right
  | .mul => left.mul? right
  | .div => left.div? right
  | .rem => left.rem? right

/-- The error for a result out of range. -/
def overflow (op : Arithmetic) : Error :=
  .evaluation (.numericOverflow op.text)

/-- A result on integers as a value. -/
def integral {bits : Nat} (op : Arithmetic) (wrap : BoundedInt bits → Value)
    (left right : BoundedInt bits) : Except Error Value :=
  if op.divides && right.val == 0 then .ok .null
  else
    match op.onIntegers? left right with
    | some result => .ok (wrap result)
    | none => .error op.overflow

/-- Arithmetic with at least one double. -/
def floating (op : Arithmetic) (left right : Value) : Except Error Value :=
  match left.toDouble with
  | .error error => .error error
  | .ok leftNumber =>
      match right.toDouble with
      | .error error => .error error
      | .ok rightNumber =>
          if op.divides && rightNumber.isZero then .ok .null
          else .ok (.double (op.onDoubles leftNumber rightNumber))

/-- Arithmetic with decimals. -/
def exact (op : Arithmetic) (left right : Value) : Except Error Value :=
  match left.toDecimal with
  | .error error => .error error
  | .ok leftNumber =>
      match right.toDecimal with
      | .error error => .error error
      | .ok rightNumber =>
          if op.divides && rightNumber.isZero then .ok .null
          else
            match op.onDecimals? leftNumber rightNumber with
            | some result => .ok (.decimal result)
            | none => .error op.overflow

/-- Arithmetic on two values that are not `NULL`. -/
def apply (op : Arithmetic) : Value → Value → Except Error Value
  | .int left, .int right => op.integral .int left right
  | .int left, .long right => op.integral .long left.widen right
  | .long left, .int right => op.integral .long left right.widen
  | .long left, .long right => op.integral .long left right
  | .double left, right => op.floating (.double left) right
  | left, .double right => op.floating left (.double right)
  | left, right => op.exact left right

end Arithmetic

/-- The value of a binary operator on two values. -/
def Operator.apply (op : Operator) (left right : Value) : Except Error Value :=
  match op with
  | .logical link => .ok (.ofTruth (link.combine left.truth? right.truth?))
  | .comparison test => .ok (.ofTruth ((Value.compare? left right).map test.holds))
  | .arithmetic calculation =>
      if left.isNull || right.isNull then .ok .null else calculation.apply left right

end ScalarSql
