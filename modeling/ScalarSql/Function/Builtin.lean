import ScalarSql.Function.HostType
import ScalarSql.Function.Registry

/-!
# Built-in functions

The functions that every query can call unless one of the same name is registered.  They
are ordinary typed functions; `abs`, `substr` and `rand` have several signatures, and
`concat` takes any number of texts.
-/

set_option autoImplicit false

namespace ScalarSql.Builtin

/-- The result of arithmetic on 64 bits.  A number that does not fit makes the function panic. -/
def fitting (operation : String) (number : Int) : Outcome (BoundedInt 64) :=
  match BoundedInt.ofInt? number with
  | some result => .value result
  | none => .panic (some ("attempt to " ++ operation ++ " with overflow"))

/-- A 64-bit integer as an index, for which a negative one is taken modulo `2 ^ 64`. -/
def asIndex (number : BoundedInt 64) : Nat :=
  (number.val % twoPow 64).toNat

/-- The characters of a text from one index up to but not including another one.  Indices
that are out of order or beyond the text make the function panic. -/
def slice (text : List Char) (start stop : Nat) : Outcome (List Char) :=
  if stop < start then
    .panic (some ("slice index starts at " ++ Nat.repr start ++ " but ends at " ++ Nat.repr stop))
  else if text.length < stop then
    .panic (some ("range end index " ++ Nat.repr stop ++ " out of range for slice of length "
      ++ Nat.repr text.length))
  else .value ((text.take stop).drop start)

/-- Where in a text of the given length a position is, counted from zero.  Positions count from
one, zero is like one, and negative positions count from the end. -/
def startOf (total : BoundedInt 64) (position : BoundedInt 32) : Outcome (BoundedInt 64) :=
  if 0 < position.val then fitting "subtract" (position.widen.val - 1)
  else if position.val < 0 then
    (fitting "add" (total.val + position.widen.val)).map fun sum =>
      if sum.val < 0 then .wrap 0 else sum
  else .value (.wrap 0)

/-- Where a part of a text ends that has at most the given length. -/
def stopOf (total start : BoundedInt 64) (length : BoundedInt 32) : Outcome (BoundedInt 64) :=
  (fitting "add" (start.val + length.widen.val)).map fun sum =>
    if total.val < sum.val then total else sum

/-- The part of a text between two places, which is empty if there is nothing between them. -/
def partOf (text : List Char) (total start stop : BoundedInt 64) : Outcome (List Char) :=
  if total.val ≤ start.val || stop.val ≤ start.val then .value []
  else slice text (asIndex start) (asIndex stop)

/-- The part of a text that starts at a position and has at most the given length. -/
def substring (text : List Char) (position : BoundedInt 32) (length : Option (BoundedInt 32)) :
    Outcome (List Char) :=
  let total : BoundedInt 64 := .wrap text.length
  (startOf total position).bind fun start =>
    match length with
    | none => partOf text total start total
    | some count =>
        if count.val ≤ 0 then .value []
        else (stopOf total start count).bind fun stop => partOf text total start stop

/-- The magnitude of an integer, if it is in range. -/
def magnitude {bits : Nat} (value : BoundedInt bits) : Outcome (BoundedInt bits) :=
  match BoundedInt.ofInt? (value.val.natAbs : Int) with
  | some result => .value result
  | none => .failure "integer overflow in abs"

/-- A source of random numbers from zero up to but not including one: the number that a call
without a seed gives, and the one for each seed.  Which numbers these are is not said here; calls
without a seed share theirs. -/
structure Generator where
  unseeded : Double := .zero false
  seeded : BoundedInt 64 → Double := fun _ => .zero false

/-- The texts joined, as long as all arguments are texts. -/
def concatenate : List Value → Except Error String
  | [] => .ok ""
  | .string text :: rest => (concatenate rest).map (text ++ ·)
  | other :: _ => .error (other.mismatch "STRING")

/-- The built-in functions in the order of their registration. -/
def functions (generator : Generator) : List (Except Error ScalarFunction) :=
  [ ScalarFunction.typed "length" [.string] .int fun (text, ()) =>
      .value (BoundedInt.wrap text.length),
    ScalarFunction.typed "upper" [.string] .string fun (text, ()) => .value (Text.upper text),
    ScalarFunction.typed "lower" [.string] .string fun (text, ()) => .value (Text.lower text),
    ScalarFunction.typed "abs" [.int] .int fun (value, ()) => magnitude value,
    ScalarFunction.typed "abs" [.long] .long fun (value, ()) => magnitude value,
    ScalarFunction.typed "abs" [.decimal] .decimal fun (value, ()) => .value (Decimal.abs value),
    ScalarFunction.typed "abs" [.double] .double fun (value, ()) => .value (Double.abs value),
    ScalarFunction.typed "substr" [.string, .int] .string fun (text, position, ()) =>
      (substring (String.toList text) position none).map String.ofList,
    ScalarFunction.typed "substr" [.string, .int, .int] .string fun (text, position, length, ()) =>
      (substring (String.toList text) position (some length)).map String.ofList,
    (Signature.declare "concat" [.string] .string (.variadic 1)).map fun signature =>
      .dynamic signature fun arguments => (concatenate arguments).map .string,
    (ScalarFunction.typed "rand" [] .double fun () =>
      .value generator.unseeded).map .nonDeterministic,
    (ScalarFunction.typed "rand" [.long] .double fun (seed, ()) =>
      .value (generator.seeded seed)).map .nonDeterministic ]

/-- Registers a function unless its signature has a fault. -/
def install (registry : Registry) : Except Error ScalarFunction → Registry
  | .ok function => registry.registerOverload (.scalar function)
  | .error _ => registry

/-- The registry of the built-in functions. -/
def registry (generator : Generator) : Registry :=
  (functions generator).foldl install {}

end ScalarSql.Builtin
