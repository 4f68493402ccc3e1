import ScalarSql.Error

/-!
# Function signatures

A signature gives a function its name, the types of its parameters and of its result, and
how many arguments it takes.  A variadic function repeats the type of its last parameter.
`Signature.declare` is the only way a checked signature comes about: its name is an
identifier, its types are resolved, and every accepted argument has a declared type.
-/

set_option autoImplicit false

namespace ScalarSql

/-- How many arguments a function takes. -/
inductive Arity where
  | fixed (count : Nat)
  | variadic (least : Nat)
  deriving DecidableEq

namespace Arity

/-- Whether a call may have `count` arguments. -/
def accepts : Arity → Nat → Bool
  | .fixed expected, count => count == expected
  | .variadic least, count => least ≤ count

/-- Whether the number of arguments is open. -/
def isVariadic : Arity → Bool
  | .fixed _ => false
  | .variadic _ => true

/-- The arity in words. -/
def text : Arity → String
  | .fixed count => Nat.repr count
  | .variadic least => "at least " ++ Nat.repr least

end Arity

/-- The name and types of a function. -/
structure Signature where
  name : String
  parameters : List DataType
  returnType : DataType
  arity : Arity
  deriving DecidableEq

namespace Signature

/-- The largest number of declared parameters. -/
def maxParameters : Nat := 22

/-- Whether a call may have `count` arguments. -/
def accepts (signature : Signature) (count : Nat) : Bool :=
  signature.arity.accepts count

/-- The declared type of the argument at a position, counted from zero. -/
def parameterType? (signature : Signature) (position : Nat) : Option DataType :=
  match signature.arity with
  | .fixed _ => signature.parameters[position]?
  | .variadic _ => signature.parameters[position]?.or signature.parameters.getLast?

/-- The first fault among the parameter types from `position` on, counted from one. -/
def checkParameters (position : Nat) : List DataType → Except SignatureFault Unit
  | [] => .ok ()
  | type :: rest =>
      match type.check with
      | .error fault => .error (.parameter position fault)
      | .ok () => checkParameters (position + 1) rest

/-- Whether the arity fits the declared parameters. -/
def checkArity (signature : Signature) : Except SignatureFault Unit :=
  match signature.arity with
  | .fixed count =>
      if count = signature.parameters.length then .ok ()
      else .error (.arityMismatch count signature.parameters.length)
  | .variadic least =>
      if signature.parameters.isEmpty || signature.parameters.length < least then
        .error .nothingToRepeat
      else .ok ()

/-- The first fault of a signature: its name, the number of parameters, the arity, the
parameter types in order, and the type of the result. -/
def check (signature : Signature) : Except SignatureFault Unit :=
  if !Text.isIdentifier signature.name then .error .badName
  else if maxParameters < signature.parameters.length then
    .error (.tooManyParameters signature.parameters.length maxParameters)
  else
    match signature.checkArity with
    | .error fault => .error fault
    | .ok () =>
        match checkParameters 1 signature.parameters with
        | .error fault => .error fault
        | .ok () =>
            match signature.returnType.check with
            | .error fault => .error (.returnType fault)
            | .ok () => .ok ()

/-- A signature without faults. -/
def declare (name : String) (parameters : List DataType) (returnType : DataType)
    (arity : Arity) : Except Error Signature :=
  let signature : Signature := { name, parameters, returnType, arity }
  match signature.check with
  | .error fault => .error (.signature name fault)
  | .ok () => .ok signature

/-- A signature with exactly the declared parameters. -/
def declareFixed (name : String) (parameters : List DataType) (returnType : DataType) :
    Except Error Signature :=
  declare name parameters returnType (.fixed parameters.length)

/-- A signature whose last parameter may be repeated. -/
def declareVariadic (name : String) (parameters : List DataType) (returnType : DataType) :
    Except Error Signature :=
  declare name parameters returnType (.variadic parameters.length)

/-- The signature as it is shown to users. -/
def text (signature : Signature) : String :=
  signature.name ++ "(" ++ ", ".intercalate (signature.parameters.map DataType.text)
    ++ (if signature.arity.isVariadic then "..." else "") ++ ") -> "
    ++ signature.returnType.text

end Signature

end ScalarSql
