import ScalarSql.Proofs.Expr.Resolution
import ScalarSql.Proofs.Function.Signature
import ScalarSql.Proofs.Value.Fields

/-!
# Declared types of arguments

A checked signature has a type for every argument of every call that it accepts, and no part of
this type is unresolved, `Signature.exists_resolved_parameterType?`.  Resolution relies on this:
it goes on with the unresolved type for an argument that has none, and the argument would then be
refused, or cast to no type at all if it is a bare `NULL`.

**When a type is missing.**  That this never happens does not show in the result of a call,
because a candidate that refuses an argument may be passed over.  `Expr.selectFunctionOr`
therefore makes the same choice, except that it acts in some monad where a type is missing.  If
it answers with the unresolved type there, it is the choice that resolution makes,
`Expr.selectFunctionOr_unresolved`.  A choice that is `pure` in every monad, whatever the act,
meets no argument without a type.

**Main result.**  `Expr.parameter_types_declared`.
-/

set_option autoImplicit false

namespace ScalarSql

variable {m : Type → Type} [Monad m]

namespace Signature

/-- The declared type of the argument at a position, or what is done where there is none. -/
def typeOr (missing : m DataType) (signature : Signature) (position : Nat) : m DataType :=
  match signature.parameterType? position with
  | some type => pure type
  | none => missing

/-- What is done at a position is to give the type that resolution goes on with. -/
def Gives (missing : m DataType) (signature : Signature) (position : Nat) : Prop :=
  signature.typeOr missing position
    = pure ((signature.parameterType? position).getD .unresolved)

variable {signature : Signature} {missing : m DataType} {position : Nat}

theorem gives_of_declared {type : DataType}
    (declared : signature.parameterType? position = some type) :
    signature.Gives missing position := by
  simp only [Gives, typeOr, declared, Option.getD_some]

theorem gives_unresolved (signature : Signature) (position : Nat) :
    signature.Gives (pure .unresolved : m DataType) position := by
  unfold Gives typeOr
  cases signature.parameterType? position <;> rfl

/-- **A checked signature has a resolved type for every argument it accepts.** -/
theorem exists_resolved_parameterType? {count : Nat} (valid : signature.check = .ok ())
    (accepted : signature.accepts count = true) (bound : position < count) :
    ∃ type ∈ signature.parameters, signature.parameterType? position = some type ∧
      ¬ DataType.unresolved.IsPart type := by
  obtain ⟨type, found⟩ := exists_parameterType? valid accepted bound
  have declared := mem_of_parameterType? found
  have allowed := (check_eq_ok.mp valid).2.2.2.1 type declared
  exact ⟨type, declared, found, ((DataType.check_eq_ok_iff type).mp allowed).resolved⟩

end Signature

namespace Expr

/-! ## Choices that act where a type is missing -/

/-- An argument converted to the given type.  A bare `NULL` takes that type. -/
def convertArgument (policy : Narrowing) (name : String) (position : Nat) (argument : Expr)
    (actual expected : DataType) : Except AnalysisError Expr :=
  if actual == .unresolved then .ok (.cast argument expected false)
  else
    match argument.coerce actual expected policy with
    | .expr result => .ok result
    | .inexact | .undefined => .error (.typeMismatch name (position + 1) expected actual)

/-- The arguments from a position on, converted to their declared types. -/
def coerceArgumentsOr (missing : m DataType) (policy : Narrowing) (signature : Signature)
    (position : Nat) : List Expr → List DataType → m (Except AnalysisError (List Expr))
  | argument :: arguments, actual :: types => do
      let expected ← signature.typeOr missing position
      match convertArgument policy signature.name position argument actual expected with
      | .error error => pure (.error error)
      | .ok first =>
          let rest ← coerceArgumentsOr missing policy signature (position + 1) arguments types
          pure (rest.map (first :: ·))
  | _, _ => pure (.ok [])

/-- The first function that the arguments can be converted for. -/
def chooseOr (missing : m DataType) (policy : Narrowing) (arguments : List Expr)
    (types : List DataType) (unknown : AnalysisError) :
    List Callable → m (Except AnalysisError (Callable × List Expr))
  | [] => pure (.error unknown)
  | callable :: rest => do
      match ← coerceArgumentsOr missing policy callable.signature 0 arguments types with
      | .ok converted => pure (.ok (callable, converted))
      | .error error =>
          match ← chooseOr missing policy arguments types unknown rest with
          | .ok choice => pure (.ok choice)
          | .error _ => pure (.error error)

/-- The function for a call whose arguments are resolved. -/
def selectFunctionOr (missing : m DataType) (scope : FunctionScope) (schema : Schema)
    (name : String) (arguments : List Expr) : m (Except Error (Callable × List Expr)) :=
  match scope.lookup name with
  | none => pure (.error (.analysis (.undefinedFunction name)))
  | some candidates =>
      let accepting := candidates.filter fun callable =>
        callable.signature.accepts arguments.length
      if accepting.isEmpty then
        let expected := " or ".intercalate
          (candidates.map fun callable => callable.signature.arity.text)
        pure (.error (.analysis (.wrongArity name expected arguments.length)))
      else
        match dataTypes schema arguments with
        | .error error => pure (.error error)
        | .ok types => do
            let ordered := stableSort (fun left right =>
              (CallCost.ofCall left types).below (CallCost.ofCall right types)) accepting
            let choice ← chooseOr missing scope.narrowing arguments types
              (.undefinedFunction name) ordered
            pure (choice.mapError .analysis)

/-! ## Choices without missing types -/

section Lawful

variable [LawfulMonad m] {missing : m DataType} {signature : Signature} {arguments : List Expr}

/-- Where every argument has a type, arguments are converted as they are in resolution. -/
theorem coerceArgumentsOr_eq (policy : Narrowing) (types : List DataType) {position : Nat}
    (gives : ∀ index, position ≤ index → index < position + arguments.length →
      signature.Gives missing index) :
    coerceArgumentsOr missing policy signature position arguments types
      = pure (coerceArguments policy signature position arguments types) := by
  induction arguments generalizing position types with
  | nil => cases types <;> rfl
  | cons argument rest ih =>
      cases types with
      | nil => rfl
      | cons actual types =>
          rw [List.length_cons] at gives
          have here : signature.Gives missing position := gives position (le_refl _) (by omega)
          have later := ih types fun index above below =>
            gives index (Nat.le_of_succ_le above) (by omega)
          have same : convertArgument policy signature.name position argument actual
              ((signature.parameterType? position).getD .unresolved)
              = coerceArgument policy signature position argument actual := rfl
          rw [coerceArgumentsOr, here, pure_bind, coerceArguments, same]
          cases coerceArgument policy signature position argument actual with
          | error error => rfl
          | ok first =>
              simp only [later, pure_bind]
              cases coerceArguments policy signature (position + 1) rest types <;> rfl

/-- Where every argument has a type in all candidates, they are tried as they are in
resolution. -/
theorem chooseOr_eq {policy : Narrowing} {types : List DataType} {unknown : AnalysisError}
    {candidates : List Callable}
    (gives : ∀ callable ∈ candidates, ∀ index < arguments.length,
      callable.signature.Gives missing index) :
    chooseOr missing policy arguments types unknown candidates
      = pure (choose policy arguments types unknown candidates) := by
  induction candidates with
  | nil => rfl
  | cons callable rest ih =>
      obtain ⟨here, later⟩ := List.forall_mem_cons.mp gives
      have converted := coerceArgumentsOr_eq policy types fun index (_ : 0 ≤ index) below =>
        here index (by rwa [Nat.zero_add] at below)
      rw [chooseOr, converted, pure_bind, choose]
      cases coerceArguments policy callable.signature 0 arguments types with
      | ok converted => rfl
      | error error =>
          rw [ih later]
          simp only [pure_bind]
          cases choose policy arguments types unknown rest <;> rfl

variable {scope : FunctionScope} {schema : Schema} {name : String}

/-- **The choice of a function does not act** if every argument has a type in all candidates that
accept the call. -/
theorem selectFunctionOr_eq
    (gives : ∀ candidates, scope.lookup name = some candidates → ∀ callable ∈ candidates,
      callable.signature.accepts arguments.length = true → ∀ index < arguments.length,
        callable.signature.Gives missing index) :
    selectFunctionOr missing scope schema name arguments
      = pure (selectFunction scope schema name arguments) := by
  unfold selectFunctionOr selectFunction
  cases found : scope.lookup name with
  | none => rfl
  | some candidates =>
      dsimp only
      split
      · rfl
      · cases dataTypes schema arguments with
        | error error => rfl
        | ok types =>
            dsimp only
            rw [chooseOr_eq, pure_bind]
            intro callable member
            obtain ⟨candidate, accepts⟩ := List.mem_filter.mp ((mem_stableSort _).mp member)
            exact gives candidates found callable candidate accepts

/-- **The same choice.**  To answer with the unresolved type is what resolution does. -/
theorem selectFunctionOr_unresolved (scope : FunctionScope) (schema : Schema) (name : String)
    (arguments : List Expr) :
    selectFunctionOr (pure .unresolved : m DataType) scope schema name arguments
      = pure (selectFunction scope schema name arguments) :=
  selectFunctionOr_eq fun _ _ _ _ _ _ _ => Signature.gives_unresolved _ _

end Lawful

/-! ## Declared types -/

/-- **Every argument of an accepted call has a declared type.**  A signature that is declared has,
for every argument of every call that it accepts, one of its parameter types, no part of which is
unresolved.  So if all candidates for a call are declared, the choice among them meets no argument
without a type: it is pure in every monad, whatever is done where a type is missing. -/
theorem parameter_types_declared :
    (∀ (name : String) (parameters : List DataType) (returnType : DataType) (arity : Arity)
      (signature : Signature),
      Signature.declare name parameters returnType arity = .ok signature →
        ∀ count, signature.accepts count = true → ∀ position < count,
          ∃ type ∈ parameters, signature.parameterType? position = some type ∧
            ¬ DataType.unresolved.IsPart type) ∧
    ∀ (scope : FunctionScope) (called : String),
      (∀ candidates, scope.lookup called = some candidates → ∀ callable ∈ candidates,
        ∃ name parameters returnType arity,
          Signature.declare name parameters returnType arity = .ok callable.signature) →
        ∀ (m : Type → Type) [Monad m] [LawfulMonad m] (missing : m DataType) (schema : Schema)
          (arguments : List Expr),
          selectFunctionOr missing scope schema called arguments
            = pure (selectFunction scope schema called arguments) := by
  constructor
  · intro name parameters returnType arity signature declared count accepted position bound
    obtain ⟨rfl, valid⟩ := Signature.declare_eq_ok.mp declared
    exact Signature.exists_resolved_parameterType? valid accepted bound
  · intro scope called declared m _ _ missing schema arguments
    refine selectFunctionOr_eq fun candidates found callable member accepted index bound => ?_
    obtain ⟨_, _, _, _, made⟩ := declared candidates found callable member
    obtain ⟨-, valid⟩ := Signature.declare_eq_ok.mp made
    obtain ⟨type, found⟩ := Signature.exists_parameterType? valid accepted bound
    exact Signature.gives_of_declared found

/-- A variadic function that takes any number of arguments has a type for the fifth one, and the
choice for a call with more arguments than parameters does not act.  For a signature that is not
declared, with no parameter to repeat, it does. -/
theorem parameter_types_declared_of_variadic :
    let pick : Signature :=
      { name := "pick", parameters := [.int, .string], returnType := .int, arity := .variadic 0 }
    let scope (signature : Signature) : FunctionScope := {
      registered := { entries := [("pick", [.custom signature true fun _ => .ok .null])] }
      builtin := {}
      narrowing := .exact }
    let arguments : List Expr :=
      [.literal .null, .literal (.string "a"), .literal (.string "b")]
    let choose (signature : Signature) : Option (Except Error (Callable × List Expr)) :=
      selectFunctionOr none (scope signature) {} "pick" arguments
    Signature.declare "pick" pick.parameters .int (.variadic 0) = .ok pick ∧
      (∃ type ∈ pick.parameters, pick.parameterType? 4 = some type ∧
        ¬ DataType.unresolved.IsPart type) ∧
      choose pick = some (selectFunction (scope pick) {} "pick" arguments) ∧
      (∃ choice, selectFunction (scope pick) {} "pick" arguments = .ok choice) ∧
      choose { pick with parameters := [] } = none := by
  intro pick scope arguments choose
  obtain ⟨types, choices⟩ := parameter_types_declared
  have declared : Signature.declare "pick" pick.parameters .int (.variadic 0) = .ok pick := by
    subst pick
    rfl
  have known : ∀ candidates, (scope pick).lookup "pick" = some candidates →
      ∀ callable ∈ candidates, ∃ name parameters returnType arity,
        Signature.declare name parameters returnType arity = .ok callable.signature := by
    rintro _ ⟨⟩ callable member
    cases List.mem_singleton.mp member
    exact ⟨_, _, _, _, declared⟩
  exact ⟨declared, types _ _ _ _ _ declared 5 rfl 4 (by decide),
    choices (scope pick) "pick" known Option none {} arguments, ⟨_, rfl⟩, rfl⟩

end Expr

end ScalarSql
