import ScalarSql.Expr.Basic
import ScalarSql.Value.Cast

/-!
# Conversions between types

`DataType.coercion?` says which conversions happen without being asked for: numbers widen,
and a decimal narrows to an integer type.  A literal decimal is narrowed during analysis,
so that a fraction is found out before any row is read; any other decimal is cast, and the
narrowing policy decides whether the cast is checked.  `DataType.castable` is the larger
relation of conversions that can be asked for.
-/

set_option autoImplicit false

namespace ScalarSql

/-- The kinds of conversion that happen without being asked for. -/
inductive Coercion where
  | identity
  | widening
  | narrowing
  deriving DecidableEq

namespace DataType

/-- The conversion of one type to a different one. -/
def conversion? : DataType → DataType → Option Coercion
  | .int, .long | .int, .double | .int, .decimal => some .widening
  | .long, .double | .long, .decimal => some .widening
  | .decimal, .double => some .widening
  | .decimal, .int | .decimal, .long => some .narrowing
  | _, _ => none

/-- How values of one type become values of another without being asked to; types with an
unresolved part never do. -/
def coercion? (source target : DataType) : Option Coercion :=
  if source.hasUnresolved || target.hasUnresolved then none
  else if source == target then some .identity
  else conversion? source target

/-- Whether a text can be read as a value of the type and a value written as a text. -/
def hasWrittenForm : DataType → Bool
  | .int | .long | .double | .decimal | .boolean => true
  | _ => false

/-- Whether a cast from one type to another can be asked for. -/
def castable (source target : DataType) : Bool :=
  source == .unresolved
    || (coercion? source target).isSome
    || (source.isNumeric && target.isNumeric)
    || (source == .string && target.hasWrittenForm)
    || (source.hasWrittenForm && target == .string)

end DataType

/-- The outcome of converting an expression to a type. -/
inductive Coerced where
  | expr (result : Expr)
  /-- A literal whose fraction the policy does not let go. -/
  | inexact
  /-- There is no conversion between the types. -/
  | undefined

namespace Expr

/-- The decimal that the expression writes literally. -/
def decimalLiteral? : Expr → Option Decimal
  | .literal (.decimal d) => some d
  | _ => none

/-- The expression of one type converted to another; a result always has the target
type. -/
def coerce (expr : Expr) (source target : DataType) (policy : Narrowing) : Coerced :=
  match DataType.coercion? source target with
  | none => .undefined
  | some .identity => .expr expr
  | some .widening => .expr (.cast expr target false)
  | some .narrowing =>
      match expr.decimalLiteral? with
      | none => .expr (.cast expr target (policy == .exact))
      | some d =>
          match d.narrow? target policy with
          | some value => .expr (.literal value)
          | none => .inexact

end Expr

end ScalarSql
