import ScalarSql.Function.Signature
import ScalarSql.Value.Basic

/-!
# Functions that queries can call

A scalar function wraps a body that only sees arguments it can handle: the number of
arguments is checked, a `NULL` in a position that does not expect one makes the result
`NULL` without running the body, and the result must have the declared type.  Whatever
goes wrong is reported under the name of the function.  A custom function answers for
all of this itself.
-/

set_option autoImplicit false

namespace ScalarSql

/-- How the body of a function ends: with a value, with an error it reports, or by
panicking, perhaps with a message. -/
inductive Outcome (α : Type) where
  | value (result : α)
  | failure (message : String)
  | panic (message : Option String)

namespace Outcome

variable {α β : Type}

/-- The outcome with its value mapped. -/
def map (f : α → β) : Outcome α → Outcome β
  | .value result => .value (f result)
  | .failure message => .failure message
  | .panic message => .panic message

/-- The outcome of going on with the value, if there is one. -/
def bind (outcome : Outcome α) (next : α → Outcome β) : Outcome β :=
  match outcome with
  | .value result => next result
  | .failure message => .failure message
  | .panic message => .panic message

theorem map_value (f : α → β) (result : α) : (value result).map f = .value (f result) := rfl

theorem bind_value (result : α) (next : α → Outcome β) : (value result).bind next = next result :=
  rfl

/-- An error becomes a failure with its wording. -/
def ofExcept : Except Error α → Outcome α
  | .ok result => .value result
  | .error error => .failure error.message

end Outcome

/-- A body together with what the library checks around it. -/
structure ScalarFunction where
  signature : Signature
  /-- Which parameters expect `NULL`; a repeated parameter is like the last one. -/
  nullable : List Bool
  deterministic : Bool
  body : List Value → Outcome Value

namespace ScalarFunction

/-- The function with the given signature that never sees `NULL`; an error of its body is
reported in its own words. -/
def dynamic (signature : Signature) (body : List Value → Except Error Value) :
    ScalarFunction where
  signature
  nullable := signature.parameters.map fun _ => false
  deterministic := true
  body arguments := .ofExcept (body arguments)

/-- The function, no longer promising the same result for the same arguments. -/
def nonDeterministic (function : ScalarFunction) : ScalarFunction :=
  { function with deterministic := false }

/-- Whether the argument at a position may be `NULL`. -/
def expectsNull (function : ScalarFunction) (position : Nat) : Bool :=
  (function.nullable[position]?.or function.nullable.getLast?).getD false

/-- Whether some argument from `position` on is `NULL` where the body does not expect
it. -/
def hasUnexpectedNull (function : ScalarFunction) (position : Nat) : List Value → Bool
  | [] => false
  | argument :: rest =>
      (argument.isNull && !function.expectsNull position)
        || function.hasUnexpectedNull (position + 1) rest

/-- A failure of the function, not yet tied to a row. -/
def failed (function : ScalarFunction) (message : String) : Error :=
  .functionFailed function.signature.name none message

/-- The result of calling the function. -/
def invoke (function : ScalarFunction) (arguments : List Value) : Except Error Value :=
  if !function.signature.accepts arguments.length then
    .error (function.failed ("expected " ++ function.signature.arity.text
      ++ " arguments, got " ++ Nat.repr arguments.length))
  else if function.hasUnexpectedNull 0 arguments then .ok .null
  else
    match function.body arguments with
    | .panic none => .error (function.failed "panicked")
    | .panic (some message) => .error (function.failed ("panicked: " ++ message))
    | .failure message => .error (function.failed message)
    | .value result =>
        if result.hasType function.signature.returnType then .ok result
        else
          .error (function.failed ("returned " ++ result.ownType.text ++ " but declares "
            ++ function.signature.returnType.text))

end ScalarFunction

/-- A function that can be registered and called.  What a call gives depends on its arguments
alone: a function that reads anything else is seen as it answers during one run. -/
inductive Callable where
  | scalar (function : ScalarFunction)
  | custom (signature : Signature) (deterministic : Bool)
      (body : List Value → Except Error Value)

namespace Callable

/-- The signature of the function. -/
def signature : Callable → Signature
  | .scalar function => function.signature
  | .custom signature _ _ => signature

/-- The name of the function. -/
def name (callable : Callable) : String := callable.signature.name

/-- Whether the function promises the same result for the same arguments in every run. -/
def isDeterministic : Callable → Bool
  | .scalar function => function.deterministic
  | .custom _ deterministic _ => deterministic

/-- The result of calling the function. -/
def invoke : Callable → List Value → Except Error Value
  | .scalar function, arguments => function.invoke arguments
  | .custom _ _ body, arguments => body arguments

end Callable

end ScalarSql
