import ScalarSql.Aggregate.Accumulator
import ScalarSql.Expr.Evaluation

/-!
# Grouping rows

Rows with the same values of the grouping keys form a group, and the groups come in the
order in which their first rows come.  Without grouping keys there is one group, even of
no rows.  A result row holds the keys of a group and then its aggregates.
-/

set_option autoImplicit false

namespace ScalarSql

/-- An aggregate together with the type of its column. -/
structure TypedAggregate where
  aggregate : Aggregate
  output : DataType

namespace TypedAggregate

/-- The type in which the values are added up. -/
def sumType (typed : TypedAggregate) : DataType :=
  typed.aggregate.function.sumType typed.output

end TypedAggregate

/-- A group of rows: the values of its keys and the state of each aggregate. -/
structure Group where
  key : List Value
  states : List Accumulator

namespace Group

/-- Whether two lists of key values belong to the same group. -/
def sameKeys : List Value → List Value → Bool
  | [], [] => true
  | left :: lefts, right :: rights => Value.sameKey left right && sameKeys lefts rights
  | _, _ => false

/-- The group of a key before its first row. -/
def fresh (aggregates : List TypedAggregate) (key : List Value) : Group where
  key
  states := aggregates.map fun typed => .start typed.aggregate.function

/-- The states after one more row of the group. -/
def takeRow (context : RowContext) : List TypedAggregate → List Accumulator →
    Except Error (List Accumulator)
  | typed :: aggregates, state :: states =>
      match typed.aggregate.expr.evaluate context with
      | .error error => .error error
      | .ok value =>
          match state.update value typed.sumType with
          | .error error => .error error
          | .ok next => (takeRow context aggregates states).map (next :: ·)
  | _, _ => .ok []

/-- The groups after one more row, which joins the group of its key or opens a new one. -/
def insertRow (context : RowContext) (aggregates : List TypedAggregate) (key : List Value) :
    List Group → Except Error (List Group)
  | [] =>
      (takeRow context aggregates (fresh aggregates key).states).map fun states =>
        [{ key, states }]
  | group :: rest =>
      if sameKeys group.key key then
        (takeRow context aggregates group.states).map fun states => { group with states } :: rest
      else (insertRow context aggregates key rest).map (group :: ·)

/-- The groups after some more rows; `index` is the position of the first of them. -/
def insertRows (schema : Schema) (policy : FailurePolicy) (keys : List Expr)
    (aggregates : List TypedAggregate) (groups : List Group) (index : Nat) :
    List Row → Except Error (List Group)
  | [] => .ok groups
  | row :: rest =>
      let context : RowContext := { schema, policy, row, index }
      match Expr.evaluateAll context keys with
      | .error error => .error error
      | .ok key =>
          match insertRow context aggregates key groups with
          | .error error => .error error
          | .ok next => insertRows schema policy keys aggregates next (index + 1) rest

/-- The results of several accumulators. -/
def finishAll : List Accumulator → Except Error (List Value)
  | [] => .ok []
  | state :: rest =>
      match state.finish with
      | .error error => .error error
      | .ok value => (finishAll rest).map (value :: ·)

/-- The result rows of groups. -/
def finishRows : List Group → Except Error (List Row)
  | [] => .ok []
  | group :: rest =>
      match finishAll group.states with
      | .error error => .error error
      | .ok values => (finishRows rest).map ((group.key ++ values) :: ·)

end Group

/-- The result rows of grouping rows by keys. -/
def groupRows (schema : Schema) (policy : FailurePolicy) (keys : List Expr)
    (aggregates : List TypedAggregate) (rows : List Row) : Except Error (List Row) :=
  match Group.insertRows schema policy keys aggregates [] 0 rows with
  | .error error => .error error
  | .ok groups =>
      Group.finishRows
        (if groups.isEmpty && keys.isEmpty then [.fresh aggregates []] else groups)

end ScalarSql
