import ScalarSql.Expr.Basic
import ScalarSql.Text.Case

/-!
# Aggregate functions

The functions that turn the values of a group of rows into one value.  An aggregate call
is no expression of its own: a plan lists the aggregates of a query next to the grouping
keys, and the expressions above refer to them by column name.
-/

set_option autoImplicit false

namespace ScalarSql

/-- The aggregate functions. -/
inductive AggregateFunction where
  | count | sum | avg | min | max
  deriving DecidableEq

namespace AggregateFunction

/-- The name of the function. -/
def text : AggregateFunction → String
  | .count => "COUNT"
  | .sum => "SUM"
  | .avg => "AVG"
  | .min => "MIN"
  | .max => "MAX"

/-- All aggregate functions. -/
def all : List AggregateFunction := [.count, .sum, .avg, .min, .max]

/-- The function with the given name, in any case. -/
def ofName? (name : String) : Option AggregateFunction :=
  all.find? fun function => function.text == Text.upper name

/-- The type of the result for values of the given type, if the function accepts them.
Sums of integers are long, and so are sums of bare `NULL`s. -/
def outputType? (function : AggregateFunction) (argument : DataType) : Option DataType :=
  match function, argument with
  | .count, _ => some .long
  | .sum, .int | .sum, .long | .sum, .unresolved => some .long
  | .sum, .double => some .double
  | .sum, .decimal => some .decimal
  | .sum, _ => none
  | .avg, .decimal => some .decimal
  | .avg, .int | .avg, .long | .avg, .double | .avg, .unresolved => some .double
  | .avg, _ => none
  | .min, .array _ | .max, .array _ => none
  | .min, type | .max, type => some type

/-- The type in which the values are added up, given the type of the result. -/
def sumType : AggregateFunction → DataType → DataType
  | .avg, .decimal => .decimal
  | .avg, _ => .double
  | _, output => output

end AggregateFunction

/-- An aggregate column of a plan. -/
structure Aggregate where
  function : AggregateFunction
  expr : Expr
  /-- The name of the column. -/
  name : String

/-- The type of an aggregate column over rows of the given schema. -/
def Aggregate.outputType (aggregate : Aggregate) (schema : Schema) : Except Error DataType :=
  match aggregate.expr.dataType schema with
  | .error error => .error error
  | .ok argument =>
      match aggregate.function.outputType? argument with
      | some output => .ok output
      | none =>
          .error (.analysis (.invalidOperands aggregate.function.text argument argument))

end ScalarSql
