import ScalarSql.Expr.Coercion
import ScalarSql.Function.Registry

/-!
# Resolving expressions

Resolving an expression against the columns of a row finds every column, checks the
operands of every operator, and replaces calls by name with invocations.  A call goes to
the functions registered under its name or, if there are none, to the built-in ones.

**Choice of a function.**  Of the functions that accept the number of arguments those
with a fixed arity come first, then those that narrow fewer arguments, then those that
convert fewer arguments otherwise; a tie is decided by the order of registration.  The
first one whose parameters all arguments can be converted to is chosen, and if there is
none, the error of the very first is reported.

**Identities.**  Every new invocation takes the next number of a counter, so that no two
calls are mistaken for one another.  Resolving what is already resolved makes no new
invocation.
-/

set_option autoImplicit false

namespace ScalarSql

/-- Computations that may fail and that number new invocations. -/
abbrev Resolving := StateT Nat (Except Error)

/-- What calls are resolved with. -/
structure FunctionScope where
  /-- The functions looked at first. -/
  registered : Registry
  /-- The functions looked at when nothing is registered under a name. -/
  builtin : Registry
  narrowing : Narrowing

namespace FunctionScope

/-- The functions that a name stands for. -/
def lookup (scope : FunctionScope) (name : String) : Option (List Callable) :=
  (scope.registered.lookup name).or (scope.builtin.lookup name)

end FunctionScope

/-- What it takes to call a function with given arguments. -/
structure CallCost where
  variadic : Bool
  narrowings : Nat
  widenings : Nat

namespace CallCost

/-- Whether one cost is strictly below another. -/
def below (left right : CallCost) : Bool :=
  (!left.variadic && right.variadic)
    || (left.variadic == right.variadic
      && (left.narrowings < right.narrowings
        || (left.narrowings == right.narrowings && left.widenings < right.widenings)))

/-- Adds what it takes to convert one more argument.  A bare `NULL` and an argument
without a conversion count as widened. -/
def add (cost : CallCost) : Option Coercion → CallCost
  | some .identity => cost
  | some .narrowing => { cost with narrowings := cost.narrowings + 1 }
  | some .widening | none => { cost with widenings := cost.widenings + 1 }

/-- The cost of converting arguments, the first of which is at the given position. -/
def addAll (signature : Signature) (cost : CallCost) (position : Nat) : List DataType → CallCost
  | [] => cost
  | type :: rest =>
      addAll signature
        (cost.add ((signature.parameterType? position).bind (DataType.coercion? type)))
        (position + 1) rest

/-- The cost of calling a function with arguments of the given types. -/
def ofCall (callable : Callable) (types : List DataType) : CallCost :=
  addAll callable.signature
    { variadic := callable.signature.arity.isVariadic, narrowings := 0, widenings := 0 } 0 types

end CallCost

namespace Expr

/-! ## Arguments -/

/-- An argument converted to the type that the function declares for its position.  A
bare `NULL` takes that type. -/
def coerceArgument (policy : Narrowing) (signature : Signature) (position : Nat)
    (argument : Expr) (actual : DataType) : Except AnalysisError Expr :=
  let expected := (signature.parameterType? position).getD .unresolved
  if actual == .unresolved then .ok (.cast argument expected false)
  else
    match argument.coerce actual expected policy with
    | .expr result => .ok result
    | .inexact | .undefined =>
        .error (.typeMismatch signature.name (position + 1) expected actual)

/-- The arguments from a position on, converted; the first one that has no conversion is
reported. -/
def coerceArguments (policy : Narrowing) (signature : Signature) (position : Nat) :
    List Expr → List DataType → Except AnalysisError (List Expr)
  | argument :: arguments, actual :: types =>
      match coerceArgument policy signature position argument actual with
      | .error error => .error error
      | .ok first =>
          match coerceArguments policy signature (position + 1) arguments types with
          | .error error => .error error
          | .ok rest => .ok (first :: rest)
  | _, _ => .ok []

/-- The first function that the arguments can be converted for, with the converted
arguments, or the first error; `missing` is the error when there is no function. -/
def choose (policy : Narrowing) (arguments : List Expr) (types : List DataType)
    (missing : AnalysisError) : List Callable → Except AnalysisError (Callable × List Expr)
  | [] => .error missing
  | callable :: rest =>
      match coerceArguments policy callable.signature 0 arguments types with
      | .ok converted => .ok (callable, converted)
      | .error error =>
          match choose policy arguments types missing rest with
          | .ok choice => .ok choice
          | .error _ => .error error

/-- The types of several expressions. -/
def dataTypes (schema : Schema) : List Expr → Except Error (List DataType)
  | [] => .ok []
  | expr :: rest =>
      match expr.dataType schema with
      | .error error => .error error
      | .ok type =>
          match dataTypes schema rest with
          | .error error => .error error
          | .ok types => .ok (type :: types)

/-- The function for a call whose arguments are resolved, with the converted
arguments. -/
def selectFunction (scope : FunctionScope) (schema : Schema) (name : String)
    (arguments : List Expr) : Except Error (Callable × List Expr) :=
  match scope.lookup name with
  | none => .error (.analysis (.undefinedFunction name))
  | some candidates =>
      let accepting := candidates.filter fun callable =>
        callable.signature.accepts arguments.length
      if accepting.isEmpty then
        let expected := " or ".intercalate
          (candidates.map fun callable => callable.signature.arity.text)
        .error (.analysis (.wrongArity name expected arguments.length))
      else
        match dataTypes schema arguments with
        | .error error => .error error
        | .ok types =>
            let ordered := stableSort (fun left right =>
              (CallCost.ofCall left types).below (CallCost.ofCall right types)) accepting
            (choose scope.narrowing arguments types (.undefinedFunction name) ordered).mapError
              .analysis

/-- The next identity of an invocation. -/
def freshId : Resolving Nat :=
  modifyGet fun next => (next, next + 1)

/-- The invocation for a call whose arguments are resolved. -/
def resolveCall (scope : FunctionScope) (schema : Schema) (name : String)
    (arguments : List Expr) : Resolving Expr := do
  let (callable, converted) ← selectFunction scope schema name arguments
  let id ← freshId
  (invoke? { id, callable } converted).mapError Error.analysis

/-! ## Operators -/

/-- The error for an operand of a unary operator. -/
def invalidOperand (operator : String) (type : DataType) : Error :=
  .analysis (.invalidOperands operator type type)

/-- Checks the operands of an operator whose parts are resolved. -/
def checkOperator (schema : Schema) : Expr → Except Error Unit
  | .binary op left right => (Expr.binary op left right).dataType schema |>.map fun _ => ()
  | .not operand =>
      match operand.dataType schema with
      | .error error => .error error
      | .ok type => if Connective.accepts type then .ok () else .error (invalidOperand "NOT" type)
  | .negate operand =>
      match operand.dataType schema with
      | .error error => .error error
      | .ok type =>
          if type.isNumeric || type == .unresolved then .ok ()
          else .error (invalidOperand "-" type)
  | .cast operand target _ =>
      match operand.dataType schema with
      | .error error => .error error
      | .ok source =>
          if source.castable target then .ok ()
          else .error (.analysis (.invalidOperands "CAST" source target))
  | _ => .ok ()

/-- The operator, once its operands are checked. -/
def checked (schema : Schema) (expr : Expr) : Resolving Expr :=
  match checkOperator schema expr with
  | .error error => throw error
  | .ok () => pure expr

/-! ## Columns -/

/-- The column with the given name, which must exist. -/
def resolveColumn (schema : Schema) (name : String) : Resolving Expr :=
  match schema.indexOf? name with
  | none => throw (.analysis (.unknownColumn name))
  | some _ => pure (.column name)

/-- Whether an expression is a name that qualifies columns and is no column itself. -/
def isQualifier (schema : Schema) : Expr → Bool
  | .column name => (schema.indexOf? name).isNone && schema.isQualifier name
  | _ => false

/-- The access to a field of a resolved structure. -/
def accessField (schema : Schema) (base : Expr) (name : String) : Resolving Expr := do
  let type ← base.dataType schema
  let _ ← (type.fieldType name).mapError Error.analysis
  pure (.field base name)

mutual

/-- The expression with all columns found, all operators checked and all calls
resolved. -/
def resolve (scope : FunctionScope) (schema : Schema) : Expr → Resolving Expr
  | .column name => resolveColumn schema name
  | .literal value => pure (.literal value)
  | .binary op left right => do
      let left ← left.resolve scope schema
      let right ← right.resolve scope schema
      checked schema (.binary op left right)
  | .not operand => do
      let operand ← operand.resolve scope schema
      checked schema (.not operand)
  | .negate operand => do
      let operand ← operand.resolve scope schema
      checked schema (.negate operand)
  | .isNull operand => do
      let operand ← operand.resolve scope schema
      checked schema (.isNull operand)
  | .isNotNull operand => do
      let operand ← operand.resolve scope schema
      checked schema (.isNotNull operand)
  | .cast operand target strict => do
      let operand ← operand.resolve scope schema
      checked schema (.cast operand target strict)
  | .call name arguments => do
      let arguments ← resolveAll scope schema arguments
      resolveCall scope schema name arguments
  | .invocation function arguments => do
      let arguments ← resolveAll scope schema arguments
      pure (.invocation function arguments)
  | .field base name =>
      if isQualifier schema base then resolveColumn schema name
      else do
        let base ← base.resolve scope schema
        accessField schema base name

/-- Several expressions resolved from left to right. -/
def resolveAll (scope : FunctionScope) (schema : Schema) : List Expr → Resolving (List Expr)
  | [] => pure []
  | expr :: rest => do
      let first ← expr.resolve scope schema
      let others ← resolveAll scope schema rest
      pure (first :: others)

end

end Expr

end ScalarSql
