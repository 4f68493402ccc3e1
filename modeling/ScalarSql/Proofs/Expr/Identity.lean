import ScalarSql.Proofs.Expr.Resolution
import ScalarSql.Proofs.Expr.Rewriting

/-!
# Expressions up to the identities of invocations

Resolution numbers every invocation that it makes, and the number depends on what was
resolved before.  `Expr.eraseIds` puts all invocations under one number.  Types, values
and columns of an expression do not depend on the numbers, and both rewriting rules
commute with erasing them.

The choice of a function for a call depends on the types of the arguments and not on the
arguments themselves, apart from literal decimals, so that it also commutes with erasing,
`Expr.selectFunction_eraseIds`.
-/

set_option autoImplicit false

namespace ScalarSql

namespace Expr

/-- An invocation under the number zero. -/
def eraseStep : Expr → Expr
  | .invocation function arguments => .invocation { function with id := 0 } arguments
  | other => other

/-- The expression with all invocations under the number zero. -/
def eraseIds : Expr → Expr := rewrite eraseStep

@[simp] theorem eraseIds_column (name : String) : eraseIds (.column name) = .column name := rfl

@[simp] theorem eraseIds_literal (value : Value) : eraseIds (.literal value) = .literal value :=
  rfl

@[simp] theorem eraseIds_binary (op : Operator) (left right : Expr) :
    eraseIds (.binary op left right) = .binary op left.eraseIds right.eraseIds := rfl

@[simp] theorem eraseIds_not (operand : Expr) : eraseIds (.not operand) = .not operand.eraseIds :=
  rfl

@[simp] theorem eraseIds_negate (operand : Expr) :
    eraseIds (.negate operand) = .negate operand.eraseIds := rfl

@[simp] theorem eraseIds_isNull (operand : Expr) :
    eraseIds (.isNull operand) = .isNull operand.eraseIds := rfl

@[simp] theorem eraseIds_isNotNull (operand : Expr) :
    eraseIds (.isNotNull operand) = .isNotNull operand.eraseIds := rfl

@[simp] theorem eraseIds_cast (operand : Expr) (target : DataType) (checked : Bool) :
    eraseIds (.cast operand target checked) = .cast operand.eraseIds target checked := rfl

@[simp] theorem eraseIds_call (name : String) (arguments : List Expr) :
    eraseIds (.call name arguments) = .call name (arguments.map eraseIds) := by
  rw [eraseIds, rewrite, rewriteAll_eq_map]
  rfl

@[simp] theorem eraseIds_invocation (function : ResolvedFunction) (arguments : List Expr) :
    eraseIds (.invocation function arguments)
      = .invocation { function with id := 0 } (arguments.map eraseIds) := by
  rw [eraseIds, rewrite, rewriteAll_eq_map]
  rfl

@[simp] theorem eraseIds_field (base : Expr) (name : String) :
    eraseIds (.field base name) = .field base.eraseIds name := rfl

/-! ## Types, values and columns -/

@[simp] theorem dataType_eraseIds (schema : Schema) (expr : Expr) :
    expr.eraseIds.dataType schema = expr.dataType schema := by
  refine (compositional_dataType schema).rewrite (fun expr => ?_) expr
  cases expr <;> rfl

/-- **Values do not depend on the numbers of invocations.** -/
@[simp] theorem evaluate_eraseIds (context : RowContext) (expr : Expr) :
    expr.eraseIds.evaluate context = expr.evaluate context := by
  refine (compositional_evaluate context).rewrite (fun expr => ?_) expr
  cases expr <;> rfl

@[simp] theorem isLiteral_eraseIds (expr : Expr) : expr.eraseIds.isLiteral = expr.isLiteral := by
  cases expr <;> rfl

/-! ## Rewriting -/

theorem mapOperands_eraseStep (f : Expr → Expr) (expr : Expr) :
    expr.eraseStep.mapOperands f = (expr.mapOperands f).eraseStep := by
  cases expr <;> rfl

/-- A rewriting whose steps commute with erasing commutes with erasing. -/
theorem eraseIds_rewrite {step : Expr → Expr}
    (commutes : ∀ expr : Expr, (step expr).eraseIds = step expr.eraseIds) (expr : Expr) :
    (expr.rewrite step).eraseIds = expr.eraseIds.rewrite step :=
  rewrite_rewrite mapOperands_eraseStep commutes expr

theorem isFoldable_eraseIds (expr : Expr) : expr.eraseIds.isFoldable = expr.isFoldable := by
  cases expr with
  | binary op left right => simp only [eraseIds_binary, isFoldable, isLiteral_eraseIds]
  | not operand | negate operand | isNull operand | isNotNull operand | cast operand _ _
  | field operand _ => exact isLiteral_eraseIds operand
  | _ => rfl

theorem eraseIds_foldStep (expr : Expr) : expr.foldStep.eraseIds = expr.eraseIds.foldStep := by
  have same : expr.eraseIds.foldedValue? = expr.foldedValue? := by
    simp only [foldedValue?, isFoldable_eraseIds, evaluateConstant, evaluate_eraseIds,
      dataType_eraseIds]
  unfold foldStep
  rw [same]
  cases expr.foldedValue? <;> rfl

/-- Folding commutes with erasing. -/
theorem eraseIds_fold (expr : Expr) : expr.fold.eraseIds = expr.eraseIds.fold :=
  eraseIds_rewrite eraseIds_foldStep expr

theorem eraseIds_normalizeStep (expr : Expr) :
    expr.normalizeStep.eraseIds = expr.eraseIds.normalizeStep := by
  cases expr with
  | binary op left right =>
      simp only [eraseIds_binary, normalizeStep, isLiteral_eraseIds]
      split
      · cases op.flip? <;> rfl
      · rfl
  | _ => rfl

/-- Normalizing commutes with erasing. -/
theorem eraseIds_normalize (expr : Expr) : expr.normalize.eraseIds = expr.eraseIds.normalize :=
  eraseIds_rewrite eraseIds_normalizeStep expr

/-! ## The choice of a function -/

/-- A map on expressions that keeps literals and goes through casts. -/
structure ThroughCasts (f : Expr → Expr) : Prop where
  literal : ∀ value, f (.literal value) = .literal value
  cast : ∀ operand target checked,
    f (.cast operand target checked) = .cast (f operand) target checked
  decimalLiteral? : ∀ expr, (f expr).decimalLiteral? = expr.decimalLiteral?

section Choice

variable {f : Expr → Expr} (through : ThroughCasts f) (policy : Narrowing)
  (signature : Signature)

include through

theorem coerceArgument_map (position : Nat) (argument : Expr) (actual : DataType) :
    coerceArgument policy signature position (f argument) actual
      = (coerceArgument policy signature position argument actual).map f := by
  unfold coerceArgument
  dsimp only
  split
  · simp only [Except.map, through.cast]
  · simp only [coerce, through.decimalLiteral?]
    cases DataType.coercion? actual ((signature.parameterType? position).getD .unresolved) with
    | none => rfl
    | some coercion =>
        cases coercion with
        | identity => rfl
        | widening => simp only [Except.map, through.cast]
        | narrowing =>
            cases argument.decimalLiteral? with
            | none => simp only [Except.map, through.cast]
            | some d =>
                dsimp only
                cases d.narrow? ((signature.parameterType? position).getD .unresolved) policy with
                | none => rfl
                | some value => simp only [Except.map, through.literal]

/-- **Converting arguments** commutes with a map that keeps literals and goes through
casts. -/
theorem coerceArguments_map (position : Nat) (arguments : List Expr) (types : List DataType) :
    coerceArguments policy signature position (arguments.map f) types
      = (coerceArguments policy signature position arguments types).map (List.map f) := by
  induction arguments generalizing position types with
  | nil => rfl
  | cons first rest ih =>
      cases types with
      | nil => rfl
      | cons actual types =>
          simp only [List.map_cons, coerceArguments, coerceArgument_map through, ih]
          cases coerceArgument policy signature position first actual with
          | error error => rfl
          | ok converted =>
              cases coerceArguments policy signature (position + 1) rest types <;> rfl

theorem choose_map (arguments : List Expr) (types : List DataType)
    (missing : AnalysisError) (candidates : List Callable) :
    choose policy (arguments.map f) types missing candidates
      = (choose policy arguments types missing candidates).map (Prod.map id (List.map f)) := by
  induction candidates with
  | nil => rfl
  | cons callable rest ih =>
      simp only [choose, coerceArguments_map through, ih]
      cases coerceArguments policy callable.signature 0 arguments types with
      | ok converted => rfl
      | error error => cases choose policy arguments types missing rest <;> rfl

end Choice

theorem throughCasts_eraseIds : ThroughCasts eraseIds where
  literal _ := rfl
  cast _ _ _ := rfl
  decimalLiteral? expr := by cases expr <;> rfl

theorem dataTypes_eraseIds (schema : Schema) (arguments : List Expr) :
    dataTypes schema (arguments.map eraseIds) = dataTypes schema arguments := by
  induction arguments with
  | nil => rfl
  | cons first rest ih => simp only [List.map_cons, dataTypes, dataType_eraseIds, ih]

/-- **The choice of a function** depends on the types of the arguments, and converting the
arguments commutes with erasing. -/
theorem selectFunction_eraseIds (scope : FunctionScope) (schema : Schema) (name : String)
    (arguments : List Expr) :
    selectFunction scope schema name (arguments.map eraseIds)
      = (selectFunction scope schema name arguments).map (Prod.map id (List.map eraseIds)) := by
  unfold selectFunction
  cases scope.lookup name with
  | none => rfl
  | some candidates =>
      dsimp only
      simp only [List.length_map, dataTypes_eraseIds, choose_map throughCasts_eraseIds]
      split
      · rfl
      · cases dataTypes schema arguments with
        | error error => rfl
        | ok types =>
            dsimp only
            cases choose scope.narrowing arguments types (.undefinedFunction name) _ <;> rfl

end Expr

end ScalarSql
