import ScalarSql.Expr.Basic
import ScalarSql.Value.Cast

/-!
# The value of an expression

An expression is evaluated against one row.  Operands are evaluated from left to right,
and a logical connective whose left operand decides the result does not look at the right
one.  When a function fails, its error is tied to the row, and the error policy decides
whether the error ends the query or the call yields `NULL`.
-/

set_option autoImplicit false

namespace ScalarSql

/-- What to do when a function fails. -/
inductive FailurePolicy where
  | abort
  | null
  deriving DecidableEq

/-- The name of the policy. -/
def FailurePolicy.text : FailurePolicy → String
  | .abort => "abort"
  | .null => "null"

/-- A row of values. -/
abbrev Row := List Value

/-- The row that an expression is evaluated against. -/
structure RowContext where
  schema : Schema
  policy : FailurePolicy
  row : Row
  /-- The position of the row, which failures of functions are tied to. -/
  index : Nat

/-- The outcome of a call under a policy. -/
def FailurePolicy.settle (policy : FailurePolicy) (index : Nat) :
    Except Error Value → Except Error Value
  | .error (.functionFailed function row message) =>
      match policy with
      | .abort => .error ((Error.functionFailed function row message).withRow index)
      | .null => .ok .null
  | other => other

namespace Expr

/-- The value of a column. -/
def evaluateColumn (context : RowContext) (name : String) : Except Error Value :=
  match context.schema.indexOf? name with
  | none => .error (.evaluation (.missingColumn name))
  | some index =>
      match context.row[index]? with
      | none => .error (.evaluation (.columnOutOfRange index context.row.length))
      | some value => .ok value

/-- The negation of a truth value. -/
def evaluateNot : Value → Except Error Value
  | .boolean value => .ok (.boolean !value)
  | .null => .ok .null
  | other => .error (other.mismatch "BOOLEAN")

/-- The result of an operator that the left operand alone decides. -/
def shortcut? : Operator → Value → Option Value
  | .logical op, .boolean value => if value == op.decisive then some (.boolean value) else none
  | _, _ => none

mutual

/-- The value of an expression. -/
def evaluate (context : RowContext) : Expr → Except Error Value
  | .column name => evaluateColumn context name
  | .literal value => .ok value
  | .binary op left right =>
      match left.evaluate context with
      | .error error => .error error
      | .ok leftValue =>
          match shortcut? op leftValue with
          | some decided => .ok decided
          | none =>
              match right.evaluate context with
              | .error error => .error error
              | .ok rightValue => op.apply leftValue rightValue
  | .not operand =>
      match operand.evaluate context with
      | .error error => .error error
      | .ok value => evaluateNot value
  | .negate operand =>
      match operand.evaluate context with
      | .error error => .error error
      | .ok value => value.negate
  | .isNull operand =>
      match operand.evaluate context with
      | .error error => .error error
      | .ok value => .ok (.boolean value.isNull)
  | .isNotNull operand =>
      match operand.evaluate context with
      | .error error => .error error
      | .ok value => .ok (.boolean !value.isNull)
  | .cast operand target checked =>
      match operand.evaluate context with
      | .error error => .error error
      | .ok value => value.castTo target checked
  | .call name _ => .error (.evaluation (.unresolvedCall name))
  | .invocation function arguments =>
      match evaluateAll context arguments with
      | .error error => .error error
      | .ok values => context.policy.settle context.index (function.callable.invoke values)
  | .field base name =>
      match base.evaluate context with
      | .error error => .error error
      | .ok value => .ok ((value.field? name).getD .null)

/-- The values of several expressions, in order. -/
def evaluateAll (context : RowContext) : List Expr → Except Error (List Value)
  | [] => .ok []
  | expr :: rest =>
      match expr.evaluate context with
      | .error error => .error error
      | .ok value =>
          match evaluateAll context rest with
          | .error error => .error error
          | .ok values => .ok (value :: values)

end

/-- Whether a row satisfies a predicate; an unknown truth value counts as false. -/
def holds (context : RowContext) (predicate : Expr) : Except Error Bool :=
  match predicate.evaluate context with
  | .error error => .error error
  | .ok (.boolean value) => .ok value
  | .ok .null => .ok false
  | .ok other => .error (other.mismatch "BOOLEAN")

/-- The value of an expression without columns. -/
def evaluateConstant (expr : Expr) : Except Error Value :=
  expr.evaluate { schema := {}, policy := .abort, row := [], index := 0 }

end Expr

end ScalarSql
