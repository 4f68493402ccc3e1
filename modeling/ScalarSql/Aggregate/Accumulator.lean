import ScalarSql.Aggregate.Basic
import ScalarSql.Value.Arithmetic
import ScalarSql.Value.Cast

/-!
# Accumulators

The running state of one aggregate within one group.  Every aggregate skips `NULL`.  A
sum of no values is `NULL`, not zero, and a smallest or largest value is only replaced by
one that compares strictly below or above it.  An update that fails says in which state
the accumulator is left: a value that cannot be cast leaves it as it was, and a sum that
overflows is forgotten.
-/

set_option autoImplicit false

namespace ScalarSql

/-- The running state of an aggregate. -/
inductive Accumulator where
  | count (rows : Nat)
  | sum (total : Option Value)
  | avg (total : Option Value) (rows : Nat)
  | min (least : Option Value)
  | max (greatest : Option Value)

/-- The state after a value, and the error if the value could not be taken in. -/
structure Accumulator.Step where
  state : Accumulator
  failure : Option Error

namespace Accumulator

/-- The state before the first value. -/
def start : AggregateFunction → Accumulator
  | .count => .count 0
  | .sum => .sum none
  | .avg => .avg none 0
  | .min => .min none
  | .max => .max none

/-- The total after adding a value that already has the type of the sum. -/
def addTo (total : Option Value) (value : Value) : Except Error Value :=
  match total with
  | none => .ok value
  | some current => (Operator.arithmetic .add).apply current value

/-- The value that compares as wanted with all others, after one more value. -/
def select (wanted : Ordering) (current : Option Value) (value : Value) : Option Value :=
  match current with
  | none => some value
  | some kept => if Value.compare? value kept == some wanted then some value else some kept

/-- The state after adding up one more value: `keep` is the state as it was and `next`
the state with a given total. -/
def addStep (keep : Accumulator) (next : Option Value → Accumulator) (failed : Accumulator)
    (total : Option Value) (value : Value) (sumType : DataType) : Step :=
  match value.castTo sumType false with
  | .error error => ⟨keep, some error⟩
  | .ok addend =>
      match addTo total addend with
      | .error error => ⟨failed, some error⟩
      | .ok result => ⟨next (some result), none⟩

/-- The state after one more value. -/
def step (accumulator : Accumulator) (value : Value) (sumType : DataType) : Step :=
  if value.isNull then ⟨accumulator, none⟩
  else
    match accumulator with
    | .count rows => ⟨.count (rows + 1), none⟩
    | .sum total => addStep (.sum total) .sum (.sum none) total value sumType
    | .avg total rows =>
        addStep (.avg total rows) (.avg · (rows + 1)) (.avg none rows) total value sumType
    | .min least => ⟨.min (select .lt least value), none⟩
    | .max greatest => ⟨.max (select .gt greatest value), none⟩

/-- The state after one more value, or the error. -/
def update (accumulator : Accumulator) (value : Value) (sumType : DataType) :
    Except Error Accumulator :=
  match accumulator.step value sumType with
  | ⟨_, some error⟩ => .error error
  | ⟨state, none⟩ => .ok state

/-- The divisor of an average, in the type of the total. -/
def divisor (total : Value) (rows : Nat) : Value :=
  match total with
  | .decimal _ => .decimal (.ofLong (BoundedInt.wrap rows))
  | _ => .double (Double.ofInt rows)

/-- The result of the aggregate. -/
def finish : Accumulator → Except Error Value
  | .count rows => .ok (.long (BoundedInt.wrap rows))
  | .sum total => .ok (total.getD .null)
  | .avg none _ => .ok .null
  | .avg (some total) rows => (Operator.arithmetic .div).apply total (divisor total rows)
  | .min least => .ok (least.getD .null)
  | .max greatest => .ok (greatest.getD .null)

end Accumulator

end ScalarSql
