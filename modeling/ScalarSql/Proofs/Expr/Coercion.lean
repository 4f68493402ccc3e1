import ScalarSql.Proofs.Expr.Resolution
import ScalarSql.Proofs.Expr.Rewriting
import ScalarSql.Proofs.Function.Signature

/-!
# Coerced arguments

A call resolves to an invocation whose arguments are coerced: they are as many as the
signature accepts, and each of them has the type of its parameter.  `Signature.Takes` says
this of any items that have types, so that it can be said of arguments and of their values.
A checked signature has a type for every argument that it accepts.  An argument stays as it
is, is cast, or is a literal that is narrowed, and each of these ends in that type.

**Coerced expressions.**  `Expr.Coerced` collects what makes the calls of an expression safe:
it is typed, its literals fit, its functions are checked, and the arguments of all its
invocations are coerced.  Resolution establishes this, `Expr.coerced_of_resolve`.

**Rewriting.**  The rewriting rules touch the arguments of an invocation but not the
invocation.  They keep the types of arguments, and folding makes no literal that does not
fit, so that they keep expressions coerced, `Expr.Coerced.applyRules`.
-/

set_option autoImplicit false

namespace ScalarSql

/-! ## Signatures -/

namespace Signature

variable {signature : Signature}

/-- As many items as the signature accepts, each in the given relation to the type of its
parameter. -/
structure Takes {α : Type} (signature : Signature) (related : α → DataType → Prop)
    (items : List α) : Prop where
  accepted : signature.accepts items.length = true
  each : ∀ position item, items[position]? = some item →
    ∃ type, signature.parameterType? position = some type ∧ related item type

/-- Items can be replaced one by one. -/
theorem Takes.of_forall₂ {α β : Type} {related : α → DataType → Prop}
    {relatedToo : β → DataType → Prop} {replaces : α → β → Prop} {items : List α}
    {others : List β} (takes : signature.Takes related items)
    (pairs : List.Forall₂ replaces items others)
    (carries : ∀ item other type, replaces item other → related item type →
      relatedToo other type) : signature.Takes relatedToo others where
  accepted := pairs.length_eq ▸ takes.accepted
  each := by
    intro position other found
    obtain ⟨bound, rfl⟩ := List.getElem?_eq_some_iff.mp found
    have inItems : position < items.length := pairs.length_eq ▸ bound
    obtain ⟨type, declared, itemRelated⟩ :=
      takes.each position items[position] (List.getElem?_eq_getElem inItems)
    exact ⟨type, declared, carries _ _ type (pairs.get inItems bound) itemRelated⟩

end Signature

/-- All functions that calls can go to are checked by the library and have checked
signatures. -/
def FunctionScope.Declared (scope : FunctionScope) : Prop :=
  ∀ name callables, scope.lookup name = some callables → ∀ callable ∈ callables,
    ∃ body : ScalarFunction, callable = .scalar body ∧ body.signature.check = .ok ()

theorem FunctionScope.Declared.scalar {scope : FunctionScope} (declared : scope.Declared) :
    scope.Scalar := by
  intro name callables found callable member
  obtain ⟨body, isScalar, -⟩ := declared name callables found callable member
  exact ⟨body, isScalar⟩

/-! ## Conversions -/

theorem DataType.eq_of_coercion?_identity {source target : DataType}
    (found : coercion? source target = some .identity) : source = target := by
  unfold coercion? at found
  split at found
  · cases found
  · split at found
    · next same => exact eq_of_beq same
    · unfold conversion? at found
      split at found <;> cases found

namespace Expr

variable {scope : FunctionScope} {schema : Schema}

/-- **A converted expression has the type that it was converted to.** -/
theorem dataType_of_coerce {argument converted : Expr} {source target : DataType}
    {policy : Narrowing} (computed : argument.dataType schema = .ok source)
    (result : argument.coerce source target policy = .expr converted) :
    converted.dataType schema = .ok target := by
  unfold coerce at result
  split at result
  · cases result
  · next identity =>
      cases result
      rw [computed, DataType.eq_of_coercion?_identity identity]
  · cases result
    rfl
  · split at result
    · cases result
      rfl
    · split at result
      · next narrowed =>
          cases result
          rw [dataType, Value.ownType_of_narrow? narrowed]
      · cases result

/-- A coerced argument has the type of its parameter, if there is one. -/
theorem dataType_of_coerceArgument {argument converted : Expr} {actual : DataType}
    {policy : Narrowing} {signature : Signature} {position : Nat}
    (computed : argument.dataType schema = .ok actual)
    (result : coerceArgument policy signature position argument actual = .ok converted) :
    converted.dataType schema = .ok ((signature.parameterType? position).getD .unresolved) := by
  unfold coerceArgument at result
  split at result
  · cases result
    rfl
  · dsimp only at result
    split at result
    · next coerced =>
        cases result
        exact dataType_of_coerce computed coerced
    · cases result
    · cases result

theorem dataType_of_coerceArguments {policy : Narrowing} {signature : Signature}
    {position : Nat} {arguments converted : List Expr} {types : List DataType}
    (computed : List.Forall₂ (fun argument type => argument.dataType schema = .ok type)
      arguments types)
    (result : coerceArguments policy signature position arguments types = .ok converted) :
    ∀ (index : Nat) (argument : Expr), converted[index]? = some argument →
      argument.dataType schema
        = .ok ((signature.parameterType? (position + index)).getD .unresolved) := by
  induction computed generalizing position converted with
  | nil =>
      cases result
      exact fun _ _ found => nomatch found
  | cons first rest ih =>
      simp only [coerceArguments] at result
      split at result
      · cases result
      · next head headResult =>
          split at result
          · cases result
          · next tail tailResult =>
              cases result
              intro index argument found
              cases index with
              | zero =>
                  cases found
                  exact dataType_of_coerceArgument first headResult
              | succ index =>
                  have later := ih tailResult index argument found
                  rwa [Nat.add_right_comm] at later

/-- Every argument has the type of its parameter, and there are as many as the signature
accepts. -/
def CallFits (schema : Schema) : Expr → Prop
  | .invocation function arguments =>
      function.callable.signature.Takes (fun argument type => argument.dataType schema = .ok type)
        arguments
  | _ => True

/-- The selected function takes the arguments that are converted for it. -/
theorem takes_of_selectFunction (declared : scope.Declared) {name : String}
    {arguments : List Expr} {choice : Callable × List Expr}
    (result : selectFunction scope schema name arguments = .ok choice) :
    choice.1.signature.Takes (fun argument type => argument.dataType schema = .ok type)
      choice.2 := by
  have sameLength := (converts_of_selectFunction result).length_eq
  obtain ⟨⟨candidates, found, candidate⟩, accepted, types, computed, converted⟩ :=
    selectFunction_eq_ok result
  obtain ⟨body, isScalar, valid⟩ := declared name candidates found choice.1 candidate
  have validChoice : choice.1.signature.check = .ok () := by rw [isScalar]; exact valid
  rw [sameLength] at accepted
  refine ⟨accepted, fun position argument atPosition => ?_⟩
  obtain ⟨bound, -⟩ := List.getElem?_eq_some_iff.mp atPosition
  obtain ⟨type, isDeclared⟩ := Signature.exists_parameterType? validChoice accepted bound
  have computedType := dataType_of_coerceArguments computed converted position argument atPosition
  rw [Nat.zero_add, isDeclared] at computedType
  exact ⟨type, isDeclared, computedType⟩

/-! ## Coerced expressions -/

/-- An expression as it is written, which invokes nothing. -/
def Written : Expr → Prop
  | .invocation _ _ => False
  | _ => True

/-- A typed expression whose literals fit, whose functions are checked, and whose
invocations have coerced arguments. -/
structure Coerced (schema : Schema) (expr : Expr) : Prop where
  typed : Typed schema expr
  regular : expr.All Regular
  calls : expr.All (CallFits schema)

theorem callFits_carriedOver (declared : scope.Declared) :
    CarriedOver scope schema Written (CallFits schema) where
  column _ := trivial
  cast _ _ _ := trivial
  narrowed _ := trivial
  invocation selected _ := takes_of_selectFunction declared selected
  root {expr other} sameRoot written := by
    cases other with
    | invocation function arguments => cases expr <;> first | cases sameRoot | cases written
    | _ => trivial

/-- **Resolution coerces the arguments of every call.** -/
theorem coerced_of_resolve {written : Expr} {next : Nat} {resolved : Expr × Nat}
    (declared : scope.Declared) (plain : written.All Written) (regular : written.All Regular)
    (result : written.resolve scope schema next = .ok resolved) : Coerced schema resolved.1 where
  typed := typed_of_resolve result
  regular := regular_of_resolve declared.scalar regular result
  calls := (callFits_carriedOver declared).all_of_resolve plain result

/-! ## Rewriting -/

section Rewriting

variable {step : Expr → Expr}

/-- A step that keeps types, takes its operands from those of the expression, and neither
makes nor changes an invocation. -/
structure KeepsCalls (step : Expr → Expr) : Prop where
  hasType : ∀ {schema : Schema} {expr : Expr} {type : DataType},
    HasType schema expr type → HasType schema (step expr) type
  operands : ∀ {expr operand : Expr}, operand ∈ (step expr).operands → operand ∈ expr.operands
  invocation : ∀ {expr : Expr} {function : ResolvedFunction} {arguments : List Expr},
    step expr = .invocation function arguments → expr = .invocation function arguments

theorem keepsCalls_foldStep : KeepsCalls foldStep where
  hasType := HasType.foldStep
  operands {expr operand} member := by
    rcases foldStep_cases expr with same | ⟨value, literal, -, -, -⟩
    · rwa [same] at member
    · rw [literal] at member
      cases member
  invocation {expr function arguments} made := by
    rcases foldStep_cases expr with same | ⟨value, literal, -, -, -⟩
    · rwa [same] at made
    · rw [literal] at made
      cases made

theorem keepsCalls_normalizeStep : KeepsCalls normalizeStep where
  hasType := HasType.normalizeStep
  operands := mem_operands_normalizeStep.mp
  invocation {expr function arguments} made := by
    rcases normalizeStep_cases expr with same | ⟨_, _, _, _, -, -, moved⟩
    · rwa [same] at made
    · rw [moved] at made
      cases made

/-- What a rewriting keeps at the root it keeps of all parts. -/
theorem KeepsCalls.all_rewrite (keeps : KeepsCalls step) {property : Expr → Prop}
    (root : ∀ part : Expr, property part → property (part.rewrite step)) {expr : Expr}
    (all : expr.All property) : (expr.rewrite step).All property :=
  rewrite_all_of_all root
    (fun _ below operand member => below operand (keeps.operands member)) all

/-- A rewriting that keeps the types of arguments keeps them coerced. -/
theorem KeepsCalls.callFits_rewrite (keeps : KeepsCalls step) {expr : Expr}
    (typed : Typed schema expr) (fits : CallFits schema expr) :
    CallFits schema (expr.rewrite step) := by
  unfold CallFits
  split
  · next function arguments made =>
      rw [rewrite_eq_step] at made
      have before := keeps.invocation made
      cases expr with
      | invocation function arguments =>
          cases before
          obtain ⟨_, typed⟩ := typed
          cases typed with
          | invocation types each =>
              have pairs : List.Forall₂
                  (fun argument other => HasType schema argument (types argument) ∧
                    other = argument.rewrite step) arguments (arguments.map (rewrite step)) :=
                List.forall₂_map_right_iff.mpr
                  (List.forall₂_same.mpr fun argument member => ⟨each argument member, rfl⟩)
              refine fits.of_forall₂ pairs fun argument other type ⟨typed, made⟩ computed => ?_
              obtain rfl := typed.unique computed
              rw [made]
              exact (typed.rewrite keeps.hasType).dataType
      | _ => cases before
  · trivial

theorem KeepsCalls.all_callFits_rewrite (keeps : KeepsCalls step) {expr : Expr}
    (typed : Typed schema expr) (calls : expr.All (CallFits schema)) :
    (expr.rewrite step).All (CallFits schema) := by
  obtain ⟨_, hasType⟩ := typed
  have both : expr.All fun part => Typed schema part ∧ CallFits schema part :=
    fun part member => ⟨hasType.all_typed part member, calls part member⟩
  have kept : (expr.rewrite step).All fun part => Typed schema part ∧ CallFits schema part := by
    refine keeps.all_rewrite (fun part ⟨partTyped, fits⟩ => ?_) both
    exact ⟨partTyped.imp fun _ typed => typed.rewrite keeps.hasType,
      keeps.callFits_rewrite partTyped fits⟩
  exact fun part member => (kept part member).2

end Rewriting

/-- If the expression has one value on every row, the value belongs to the type of the
expression. -/
def ConstantFits (schema : Schema) (expr : Expr) : Prop :=
  ∀ value type, (∀ context, expr.evaluate context = .ok value) →
    expr.dataType schema = .ok type → value.hasType type = true

theorem HasType.constantFits {expr : Expr} {type : DataType} (typed : HasType schema expr type)
    (regular : expr.All Regular) : ConstantFits schema expr := by
  intro value computed constant sameType
  obtain rfl := typed.unique sameType
  let context : RowContext :=
    { schema, policy := .abort, row := schema.columns.map fun _ => .null, index := 0 }
  have sound : Sound (Value.hasType · type) (expr.evaluate context) :=
    typed.evaluate_sound regular (Row.fits_null schema.columns)
  rwa [constant context] at sound

theorem all_constantFits {expr : Expr} (typed : expr.All (Typed schema))
    (regular : expr.All Regular) : expr.All (ConstantFits schema) := by
  intro part member
  obtain ⟨_, partTyped⟩ := typed part member
  exact partTyped.constantFits (regular.of_mem_parts member)

/-- Folding changes neither the value nor the type. -/
theorem ConstantFits.fold {expr : Expr} (fits : ConstantFits schema expr) :
    ConstantFits schema expr.fold := by
  intro value type constant computed
  rw [dataType_fold] at computed
  refine fits value type (fun context => ?_) computed
  rw [← evaluate_fold, constant context]

/-- Folding makes no literal that does not fit. -/
theorem regular_fold {expr : Expr} (regular : expr.Regular) (fits : ConstantFits schema expr) :
    expr.fold.Regular := by
  have step : expr.fold = (expr.mapOperands Expr.fold).foldStep := rewrite_eq_step _ _
  rcases foldStep_cases (expr.mapOperands Expr.fold) with same | ⟨value, literal, -, -, -⟩
  · rwa [step, same, regular_mapOperands]
  · rw [step, literal]
    refine fits value value.ownType (fun context => ?_) ?_
    · rw [← evaluate_fold, step, literal, evaluate]
    · rw [← dataType_fold, step, literal, dataType]

theorem regular_normalize {expr : Expr} (regular : expr.Regular) : expr.normalize.Regular := by
  have step : expr.normalize = (expr.mapOperands Expr.normalize).normalizeStep :=
    rewrite_eq_step _ _
  rcases normalizeStep_cases (expr.mapOperands Expr.normalize) with same |
    ⟨_, _, _, _, -, -, moved⟩
  · rwa [step, same, regular_mapOperands]
  · rw [step, moved]
    trivial

namespace Coerced

variable {expr : Expr}

theorem fold (coerced : Coerced schema expr) : Coerced schema expr.fold := by
  obtain ⟨⟨type, typed⟩, regular, calls⟩ := coerced
  have good : expr.All fun part => part.Regular ∧ ConstantFits schema part :=
    fun part member =>
      ⟨regular part member, all_constantFits typed.all_typed regular part member⟩
  have kept : expr.fold.All fun part => part.Regular ∧ ConstantFits schema part := by
    refine keepsCalls_foldStep.all_rewrite (fun part ⟨here, fits⟩ => ?_) good
    exact ⟨regular_fold here fits, fits.fold⟩
  exact ⟨⟨type, typed.fold⟩, fun part member => (kept part member).1,
    keepsCalls_foldStep.all_callFits_rewrite ⟨type, typed⟩ calls⟩

theorem normalize (coerced : Coerced schema expr) : Coerced schema expr.normalize := by
  obtain ⟨⟨type, typed⟩, regular, calls⟩ := coerced
  have stillRegular : expr.normalize.All Regular :=
    keepsCalls_normalizeStep.all_rewrite (fun _ here => regular_normalize here) regular
  exact ⟨⟨type, typed.normalize⟩, stillRegular,
    keepsCalls_normalizeStep.all_callFits_rewrite ⟨type, typed⟩ calls⟩

end Coerced

/-- **Rewriting keeps expressions coerced.** -/
theorem Coerced.applyRules {expr : Expr} (rules : List RewriteRule)
    (coerced : Coerced schema expr) : Coerced schema (expr.applyRules rules) := by
  induction rules generalizing expr with
  | nil => exact coerced
  | cons rule rest ih =>
      cases rule with
      | folding => exact ih coerced.fold
      | normalization => exact ih coerced.normalize

end Expr

end ScalarSql
