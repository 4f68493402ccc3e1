import ScalarSql.Function.Callable
import ScalarSql.StableSort
import ScalarSql.Text.Case

/-!
# Registered functions

A registry maps names to functions.  Names are told apart by a key, which is the name
itself or its lower case form, depending on the registry.  Registering a function
replaces everything under its key; an overload is added behind what is there.  Keys keep
the order in which they were first used, and listings are sorted by name.
-/

set_option autoImplicit false

namespace ScalarSql

/-- Functions by name. -/
structure Registry where
  caseSensitive : Bool := false
  /-- Each key with its functions, in the order of registration. -/
  entries : List (String × List Callable) := []

namespace Registry

/-- What names are told apart by. -/
def key (registry : Registry) (name : String) : String :=
  if registry.caseSensitive then name else Text.lower name

/-- The functions under a name, if there are any. -/
def lookup (registry : Registry) (name : String) : Option (List Callable) :=
  registry.entries.lookup (registry.key name)

/-- Changes what is stored under a key, which is added at the end if it is new. -/
def alter (key : String) (change : List Callable → List Callable) :
    List (String × List Callable) → List (String × List Callable)
  | [] => [(key, change [])]
  | (other, callables) :: rest =>
      if other == key then (other, change callables) :: rest
      else (other, callables) :: alter key change rest

/-- Registers a function in place of everything under its name. -/
def register (registry : Registry) (callable : Callable) : Registry :=
  { registry with
    entries := alter (registry.key callable.name) (fun _ => [callable]) registry.entries }

/-- Adds a function to those under its name. -/
def registerOverload (registry : Registry) (callable : Callable) : Registry :=
  { registry with
    entries := alter (registry.key callable.name) (· ++ [callable]) registry.entries }

/-- Whether there is a function under a name. -/
def contains (registry : Registry) (name : String) : Bool :=
  registry.entries.any fun entry => entry.1 == registry.key name

/-- Removes everything under a name. -/
def deregister (registry : Registry) (name : String) : Registry :=
  { registry with
    entries := registry.entries.filter fun entry => entry.1 != registry.key name }

/-- Removes everything. -/
def clear (registry : Registry) : Registry :=
  { registry with entries := [] }

/-- The number of keys. -/
def size (registry : Registry) : Nat := registry.entries.length

/-- Whether nothing is registered. -/
def isEmpty (registry : Registry) : Bool := registry.entries.isEmpty

/-- The signatures under a name. -/
def signatures (registry : Registry) (name : String) : List Signature :=
  ((registry.lookup name).getD []).map Callable.signature

/-- The names of the first function of each key, sorted without regard to case. -/
def names (registry : Registry) : List String :=
  stableSort (fun left right => Text.lower left < Text.lower right)
    (registry.entries.filterMap fun entry => entry.2.head?.map Callable.name)

/-- Whether one signature is listed before another: by name without regard to case, then
by the number of parameters. -/
def listedBefore (left right : Signature) : Bool :=
  let leftName := Text.lower left.name
  let rightName := Text.lower right.name
  leftName < rightName
    || (leftName == rightName && left.parameters.length < right.parameters.length)

/-- All signatures in listing order. -/
def describe (registry : Registry) : List Signature :=
  stableSort listedBefore
    (registry.entries.flatMap fun entry => entry.2.map Callable.signature)

end Registry

end ScalarSql
