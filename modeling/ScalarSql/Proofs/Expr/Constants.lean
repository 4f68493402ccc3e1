import ScalarSql.Proofs.Expr.Overloads
import ScalarSql.Proofs.Expr.Rewriting

/-!
# Constant arguments of calls

An argument of a call that is built from literals, operators, casts and tests for `NULL` only,
`Expr.IsConstant`, may stand there as the literal that it folds to.

**Two ways to a parameter.**  A literal decimal is narrowed to an integer when the call is
resolved, which is refused if its fraction would be lost.  A computed one gets a cast, which
the folding of constants carries out later and which fails on every row in the same case.
Everything else is converted in the same way with and without the literal.  `ConvertsAlike` says
what can come of both, and `Expr.coerceArgument_stands` that nothing else does.

**Constants have types.**  What folds to a literal is resolved as it stands, over any columns,
and has the type of the literal, `Expr.IsConstant.hasType`.  So both calls are resolved up to
their conversions alike, `Expr.resolveAll_stands`.

**Main result.**  `Expr.resolve_call_constant`.
-/

set_option autoImplicit false

namespace ScalarSql

/-! ## Scalar values -/

/-- Whether values of the type are `NULL` or without parts. -/
def DataType.isAtomic : DataType → Bool
  | .struct _ | .array _ => false
  | _ => true

/-- An operator only gives scalar results. -/
theorem Operator.isAtomic_of_resultType {op : Operator} {left right type : DataType}
    (result : op.resultType left right = .ok type) : type.isAtomic = true := by
  cases op with
  | arithmetic calculation =>
      simp only [Operator.resultType] at result
      cases left <;> cases right <;> cases result <;> rfl
  | comparison test =>
      simp only [Operator.resultType] at result
      split at result <;> cases result
      rfl
  | logical link =>
      simp only [Operator.resultType] at result
      split at result <;> cases result
      rfl

/-- Only decimals are narrowed, to integers. -/
theorem DataType.of_coercion?_narrowing {source target : DataType}
    (found : coercion? source target = some .narrowing) :
    source = .decimal ∧ (target = .int ∨ target = .long) := by
  unfold coercion? at found
  split at found
  · cases found
  · split at found
    · cases found
    · cases source <;> cases target <;>
        first
        | exact ⟨rfl, .inl rfl⟩
        | exact ⟨rfl, .inr rfl⟩
        | cases found

namespace Value

/-- A decimal is cast to an integer by narrowing it. -/
theorem castTo_decimal (number : Decimal) {target : DataType}
    (integral : target = .int ∨ target = .long) (checked : Bool) :
    (Value.decimal number).castTo target checked
      = match number.narrow? target (.ofChecked checked) with
        | some result => .ok result
        | none => .error (.evaluation (.inexactNarrowing number.text target)) := by
  rcases integral with rfl | rfl <;> rfl

/-- What has a sign is a number of the same type or `NULL`. -/
theorem of_negate {value result : Value} (negated : value.negate = .ok result) :
    value.ownType.isNumeric = true ∨ value.ownType = .unresolved := by
  cases value <;> first | exact .inl rfl | exact .inr rfl | cases negated

/-- What has a negation is a truth value or `NULL`. -/
theorem of_evaluateNot {value result : Value} (negated : Expr.evaluateNot value = .ok result) :
    Connective.accepts value.ownType = true := by
  cases value <;> first | rfl | cases negated

/-- A scalar that a cast gives the type it was asked for can be cast to that type. -/
theorem castable_of_castTo {value result : Value} {target : DataType} {checked : Bool}
    (scalar : value.ownType.isAtomic = true) (converted : value.castTo target checked = .ok result)
    (shows : result.ownType = target) :
    value.ownType.castable target = true ∧ target.isAtomic = true := by
  unfold castTo at converted
  split at converted
  · cases converted
    subst shows
    refine ⟨?_, scalar⟩
    cases value <;> first | rfl | cases scalar
  · next changes =>
      -- Whatever is not `NULL` and has a conversion at all is converted between scalar types.
      cases value with
      | null => exact absurd rfl changes
      | struct _ | array _ => cases scalar
      | _ =>
          cases target <;>
            first
            | exact ⟨rfl, rfl⟩
            | exact absurd rfl changes
            | cases converted

end Value

namespace Expr

variable {scope : FunctionScope} {schema : Schema}

/-! ## Constants -/

/-- What a constant is built from: scalar literals and operators. -/
def IsConstantPart : Expr → Prop
  | .literal value => value.ownType.isAtomic = true
  | .binary .. | .not _ | .negate _ | .isNull _ | .isNotNull _ | .cast .. => True
  | .column _ | .call .. | .invocation .. | .field .. => False

/-- An expression that is built from scalar literals, operators, casts and tests for `NULL`
only. -/
def IsConstant (expr : Expr) : Prop := expr.All IsConstantPart

/-- An operator is folded after its operands are, which are literals then. -/
theorem of_fold_eq_literal {expr : Expr} {value : Value} (operator : expr.isLiteral = false)
    (folds : expr.fold = .literal value) :
    (expr.mapOperands fold).isFoldable = true ∧
      (∀ context, (expr.mapOperands fold).evaluate context = .ok value) ∧
      ∀ schema, expr.dataType schema = .ok value.ownType := by
  have typed : ∀ schema, expr.dataType schema = .ok value.ownType := by
    intro schema
    rw [← dataType_fold, folds, dataType]
  have step : (expr.mapOperands fold).foldStep = .literal value := by
    rw [← folds]
    exact (rewrite_eq_step foldStep expr).symm
  rcases foldStep_cases (expr.mapOperands fold) with same | ⟨_, literal, foldable, evaluated, -⟩
  · rw [same] at step
    cases expr <;> cases step
    cases operator
  · rw [literal] at step
    cases step
    exact ⟨foldable, evaluated, typed⟩

/-- **A constant that folds to a literal has the type of the literal**, which is scalar, over
all columns. -/
theorem IsConstant.hasType {expr : Expr} (constant : expr.IsConstant) {value : Value}
    (folds : expr.fold = .literal value) :
    value.ownType.isAtomic = true ∧ ∀ schema, HasType schema expr value.ownType := by
  induction expr using inductionOnOperands generalizing value with
  | step expr ih =>
      obtain ⟨here, below⟩ := all_iff_operands.mp constant
      have operandTyped : ∀ operand ∈ expr.operands, operand.fold.isLiteral = true →
          ∃ inner : Value, operand.fold = .literal inner ∧ inner.ownType.isAtomic = true ∧
            ∀ schema, HasType schema operand inner.ownType := by
        intro operand member literal
        obtain ⟨inner, operandFolds⟩ := isLiteral_iff.mp literal
        exact ⟨inner, operandFolds, ih operand member (below operand member) operandFolds⟩
      cases expr with
      | column _ | call _ _ | invocation _ _ | field _ _ => exact here.elim
      | literal written =>
          cases folds
          exact ⟨here, fun schema => .literal value⟩
      | binary op left right =>
          obtain ⟨foldable, -, computed⟩ := of_fold_eq_literal rfl folds
          obtain ⟨leftLiteral, rightLiteral⟩ := Bool.and_eq_true_iff.mp foldable
          obtain ⟨leftValue, -, -, leftTyped⟩ := operandTyped left (by simp [operands]) leftLiteral
          obtain ⟨rightValue, -, -, rightTyped⟩ :=
            operandTyped right (by simp [operands]) rightLiteral
          have result : op.resultType leftValue.ownType rightValue.ownType
              = .ok value.ownType := by
            have found := computed {}
            simp only [dataType, (leftTyped {}).dataType, (rightTyped {}).dataType] at found
            exact mapError_eq_ok.mp found
          exact ⟨Operator.isAtomic_of_resultType result, fun schema =>
            .binary (leftTyped schema) (rightTyped schema) result⟩
      | not operand =>
          obtain ⟨foldable, evaluated, computed⟩ := of_fold_eq_literal rfl folds
          obtain ⟨inner, operandFolds, -, typed⟩ :=
            operandTyped operand (List.mem_singleton_self operand) foldable
          have negated : evaluateNot inner = .ok value := by
            have found := evaluated { schema := {}, policy := .abort, row := [], index := 0 }
            simpa only [mapOperands, evaluate, operandFolds] using found
          have isBoolean : DataType.boolean = value.ownType := Except.ok.inj (computed {})
          rw [← isBoolean]
          exact ⟨rfl, fun schema => .not (typed schema) (Value.of_evaluateNot negated)⟩
      | negate operand =>
          obtain ⟨foldable, evaluated, computed⟩ := of_fold_eq_literal rfl folds
          obtain ⟨inner, operandFolds, scalar, typed⟩ :=
            operandTyped operand (List.mem_singleton_self operand) foldable
          have negated : inner.negate = .ok value := by
            have found := evaluated { schema := {}, policy := .abort, row := [], index := 0 }
            simpa only [mapOperands, evaluate, operandFolds] using found
          have sameType : inner.ownType = value.ownType := (typed {}).unique (computed {})
          rw [← sameType]
          exact ⟨scalar, fun schema => .negate (typed schema) (Value.of_negate negated)⟩
      | isNull operand | isNotNull operand =>
          obtain ⟨foldable, -, computed⟩ := of_fold_eq_literal rfl folds
          obtain ⟨inner, -, -, typed⟩ :=
            operandTyped operand (List.mem_singleton_self operand) foldable
          have isBoolean : DataType.boolean = value.ownType := Except.ok.inj (computed {})
          rw [← isBoolean]
          first
          | exact ⟨rfl, fun schema => .isNull (typed schema)⟩
          | exact ⟨rfl, fun schema => .isNotNull (typed schema)⟩
      | cast operand target checked =>
          obtain ⟨foldable, evaluated, computed⟩ := of_fold_eq_literal rfl folds
          obtain ⟨inner, operandFolds, scalar, typed⟩ :=
            operandTyped operand (List.mem_singleton_self operand) foldable
          have converted : inner.castTo target checked = .ok value := by
            have found := evaluated { schema := {}, policy := .abort, row := [], index := 0 }
            simpa only [mapOperands, evaluate, operandFolds] using found
          have isTarget : target = value.ownType := Except.ok.inj (computed {})
          obtain ⟨allowed, targetScalar⟩ :=
            Value.castable_of_castTo scalar converted isTarget.symm
          rw [← isTarget]
          exact ⟨targetScalar, fun schema => .cast (typed schema) allowed⟩

/-! ## A literal in the place of a constant -/

/-- An argument of a call and what may stand in its place: the argument itself, or the
literal that it folds to if it is a constant. -/
inductive Stands : Expr → Expr → Prop
  | same (argument : Expr) : Stands argument argument
  | literal {argument : Expr} {value : Value} (constant : argument.IsConstant)
      (folds : argument.fold = .literal value) : Stands argument (.literal value)

namespace Stands

variable {argument other : Expr}

/-- What stands in the place of an argument folds to the same. -/
theorem fold_eq (stands : Stands argument other) : argument.fold = other.fold := by
  cases stands with
  | same => rfl
  | literal _ folds => exact folds

theorem dataType_eq (stands : Stands argument other) (schema : Schema) :
    argument.dataType schema = other.dataType schema := by
  rw [← dataType_fold, stands.fold_eq, dataType_fold]

end Stands

theorem forall₂_dataType_of_stands {arguments others : List Expr} {types : List DataType}
    (pairs : List.Forall₂ Stands arguments others)
    (computed : List.Forall₂ (fun argument type => argument.dataType schema = .ok type)
      arguments types) :
    List.Forall₂ (fun argument type => argument.dataType schema = .ok type) others types := by
  induction pairs generalizing types with
  | nil => exact computed
  | cons stands _ ih =>
      cases computed with
      | cons here later => exact .cons (stands.dataType_eq schema ▸ here) (ih later)

/-- An argument and what stands in its place are resolved alike: neither is resolved, or
both are, with as many new invocations. -/
theorem Stands.resolve {argument other : Expr} (stands : Stands argument other)
    (scope : FunctionScope) (schema : Schema) (next : Nat) :
    (∃ error, argument.resolve scope schema next = .error error ∧
      other.resolve scope schema next = .error error) ∨
    ∃ first second after, argument.resolve scope schema next = .ok (first, after) ∧
      other.resolve scope schema next = .ok (second, after) ∧ Stands first second := by
  cases stands with
  | same =>
      cases resolved : argument.resolve scope schema next with
      | error error => exact .inl ⟨error, rfl, rfl⟩
      | ok result => exact .inr ⟨result.1, result.1, result.2, rfl, rfl, .same _⟩
  | @literal value constant folds =>
      have typed := (constant.hasType folds).2 schema
      exact .inr ⟨argument, .literal value, next, typed.resolve scope next, rfl,
        .literal constant folds⟩

theorem resolveAll_stands {arguments others : List Expr}
    (pairs : List.Forall₂ Stands arguments others) (scope : FunctionScope) (schema : Schema)
    (next : Nat) :
    (∃ error, resolveAll scope schema arguments next = .error error ∧
      resolveAll scope schema others next = .error error) ∨
    ∃ first second after, resolveAll scope schema arguments next = .ok (first, after) ∧
      resolveAll scope schema others next = .ok (second, after) ∧
      List.Forall₂ Stands first second := by
  induction pairs generalizing next with
  | nil => exact .inr ⟨[], [], next, rfl, rfl, .nil⟩
  | cons stands _ ih =>
      rcases stands.resolve scope schema next with
        ⟨error, here, there⟩ | ⟨first, second, between, here, there, alike⟩
      · refine .inl ⟨error, ?_, ?_⟩
        · simp only [resolveAll, bind, StateT.bind, Except.bind, here]
        · simp only [resolveAll, bind, StateT.bind, Except.bind, there]
      · rcases ih between with ⟨error, later, otherLater⟩ |
          ⟨rest, otherRest, after, later, otherLater, restAlike⟩
        · refine .inl ⟨error, ?_, ?_⟩
          · simp only [resolveAll, bind, StateT.bind, Except.bind, here, later]
          · simp only [resolveAll, bind, StateT.bind, Except.bind, there, otherLater]
        · refine .inr ⟨first :: rest, second :: otherRest, after, ?_, ?_, .cons alike restAlike⟩
          · simp only [resolveAll, state_bind_eq_ok, state_pure_eq_ok]
            exact ⟨first, between, here, rest, after, later, rfl⟩
          · simp only [resolveAll, state_bind_eq_ok, state_pure_eq_ok]
            exact ⟨second, between, there, otherRest, after, otherLater, rfl⟩

/-! ## Converting arguments -/

/-- What becomes of an argument and of what stands in its place when both are converted:
both are refused, both are converted to what folds to the same, or only the literal is
refused, because its fraction would be lost, and the argument has no value on any row. -/
inductive ConvertsAlike : Except AnalysisError Expr → Except AnalysisError Expr → Prop
  | refused (first second : AnalysisError) : ConvertsAlike (.error first) (.error second)
  | converted {first second : Expr} (same : first.fold = second.fold) :
      ConvertsAlike (.ok first) (.ok second)
  | inexact {first : Expr} (error : AnalysisError)
      (fails : ∀ context value, first.evaluate context ≠ .ok value) :
      ConvertsAlike (.ok first) (.error error)

/-- An operator on literals with a value of its type is folded to that value. -/
theorem foldStep_eq_literal {expr : Expr} {value : Value} (foldable : expr.isFoldable = true)
    (evaluated : expr.evaluateConstant = .ok value)
    (computed : expr.dataType {} = .ok value.ownType) : expr.foldStep = .literal value := by
  simp [foldStep, foldedValue?, foldable, evaluated, computed]

theorem ConvertsAlike.refl (outcome : Except AnalysisError Expr) :
    ConvertsAlike outcome outcome := by
  cases outcome with
  | error error => exact .refused error error
  | ok converted => exact .converted rfl

/-- Casting a decimal constant and narrowing its literal: the cast is folded to the narrowed
literal, or it fails on every row. -/
theorem narrow_convertsAlike {argument : Expr} {number : Decimal} {target : DataType}
    (folds : argument.fold = .literal (.decimal number))
    (integral : target = .int ∨ target = .long) (policy : Narrowing) (refusal : AnalysisError) :
    ConvertsAlike (.ok (.cast argument target (policy == .exact)))
      (match number.narrow? target policy with
        | some value => .ok (.literal value)
        | none => .error refusal) := by
  have samePolicy : Narrowing.ofChecked (policy == .exact) = policy := by cases policy <;> rfl
  have cast := Value.castTo_decimal number integral (policy == .exact)
  rw [samePolicy] at cast
  cases narrowed : number.narrow? target policy with
  | some value =>
      rw [narrowed] at cast
      refine .converted ?_
      have step : (Expr.cast argument target (policy == .exact)).fold
          = foldStep (.cast (.literal (.decimal number)) target (policy == .exact)) := by
        rw [← folds]
        rfl
      rw [step]
      refine foldStep_eq_literal rfl ?_ ?_
      · rw [evaluateConstant, evaluate, evaluate]
        exact cast
      · rw [dataType, Value.ownType_of_narrow? narrowed]
  | none =>
      rw [narrowed] at cast
      refine .inexact refusal fun context value evaluated => ?_
      have number : argument.evaluate context = .ok (.decimal number) := by
        rw [← evaluate_fold, folds, evaluate]
      simp only [evaluate, number, cast] at evaluated
      cases evaluated

/-- **Converting an argument and what stands in its place.** -/
theorem coerceArgument_stands {argument other : Expr} {actual : DataType}
    (stands : Stands argument other) (computed : argument.dataType schema = .ok actual)
    (policy : Narrowing) (signature : Signature) (position : Nat) :
    ConvertsAlike (coerceArgument policy signature position argument actual)
      (coerceArgument policy signature position other actual) := by
  cases stands with
  | same => exact .refl _
  | @literal value constant folds =>
      cases literal : argument.isLiteral with
      | true =>
          -- A literal folds to itself.
          obtain ⟨written, rfl⟩ := isLiteral_iff.mp literal
          cases folds
          exact .refl _
      | false =>
          have isActual : actual = value.ownType := by
            rw [← dataType_fold, folds, dataType] at computed
            exact (Except.ok.inj computed).symm
          have wrapped : ∀ target checked, (Expr.cast argument target checked).fold
              = (Expr.cast (.literal value) target checked).fold := by
            intro target checked
            have step : (Expr.cast argument target checked).fold
                = foldStep (.cast argument.fold target checked) := rfl
            rw [step, folds]
            rfl
          have unwritten : argument.decimalLiteral? = none := by
            cases argument <;> first | rfl | cases literal
          simp only [coerceArgument]
          split
          · exact .converted (wrapped _ _)
          · simp only [coerce]
            cases found : actual.coercion? ((signature.parameterType? position).getD .unresolved)
              with
            | none => exact .refused _ _
            | some kind =>
                cases kind with
                | identity => exact .converted folds
                | widening => exact .converted (wrapped _ _)
                | narrowing =>
                    obtain ⟨isDecimal, integral⟩ := DataType.of_coercion?_narrowing found
                    rw [isDecimal] at isActual
                    cases value <;> cases isActual
                    next number =>
                      have narrowing := narrow_convertsAlike folds integral policy
                        (.typeMismatch signature.name (position + 1)
                          ((signature.parameterType? position).getD .unresolved) actual)
                      have written : (Expr.literal (.decimal number)).decimalLiteral?
                        = some number := rfl
                      simp only [unwritten, written]
                      revert narrowing
                      cases number.narrow? ((signature.parameterType? position).getD .unresolved)
                        policy <;> exact id

section Arguments

variable {policy : Narrowing} {signature : Signature} {position : Nat}
  {arguments others : List Expr} {types : List DataType}

/-- Where what stands in the place of the arguments is converted, so are the arguments, and
both fold to the same. -/
theorem coerceArguments_of_stands (pairs : List.Forall₂ Stands arguments others)
    (computed : List.Forall₂ (fun argument type => argument.dataType schema = .ok type)
      arguments types) {second : List Expr}
    (converted : coerceArguments policy signature position others types = .ok second) :
    ∃ first, coerceArguments policy signature position arguments types = .ok first ∧
      first.map fold = second.map fold := by
  induction pairs generalizing types position second with
  | nil =>
      cases converted
      exact ⟨[], rfl, rfl⟩
  | @cons argument other _ _ stands _ ih =>
      cases computed with
      | @cons _ type _ _ here later =>
          have alike := coerceArgument_stands stands here policy signature position
          simp only [coerceArguments] at converted ⊢
          generalize coerceArgument policy signature position argument type = outcome at alike ⊢
          generalize coerceArgument policy signature position other type = otherOutcome
            at alike converted
          cases alike with
          | refused | inexact => cases converted
          | @converted here there same =>
              dsimp only at converted
              split at converted
              · cases converted
              · next rest restConverted =>
                  cases converted
                  obtain ⟨first, found, restSame⟩ := ih later restConverted
                  refine ⟨here :: first, by simp only [found], ?_⟩
                  rw [List.map_cons, List.map_cons, same, restSame]

/-- Where the converted arguments have values on some row, what stands in their place is
converted, too. -/
theorem coerceArguments_of_values (pairs : List.Forall₂ Stands arguments others)
    (computed : List.Forall₂ (fun argument type => argument.dataType schema = .ok type)
      arguments types) {first : List Expr} {context : RowContext} {values : List Value}
    (converted : coerceArguments policy signature position arguments types = .ok first)
    (evaluated : evaluateAll context first = .ok values) :
    ∃ second, coerceArguments policy signature position others types = .ok second := by
  induction pairs generalizing types position first values with
  | nil => exact ⟨[], rfl⟩
  | @cons argument other _ _ stands _ ih =>
      cases computed with
      | @cons _ type _ _ here later =>
          have alike := coerceArgument_stands stands here policy signature position
          simp only [coerceArguments] at converted ⊢
          generalize coerceArgument policy signature position argument type = outcome
            at alike converted
          generalize coerceArgument policy signature position other type = otherOutcome
            at alike ⊢
          cases alike with
          | refused => cases converted
          | inexact _ fails =>
              dsimp only at converted
              split at converted
              · cases converted
              · cases converted
                obtain ⟨value, _, hasValue, -⟩ :=
                  List.forall₂_cons_left_iff.mp (evaluateAll_eq_ok.mp evaluated)
                exact absurd hasValue (fails context value)
          | @converted here there _ =>
              dsimp only at converted ⊢
              split at converted
              · cases converted
              · next rest restConverted =>
                  cases converted
                  obtain ⟨_, _, -, restValues, -⟩ :=
                    List.forall₂_cons_left_iff.mp (evaluateAll_eq_ok.mp evaluated)
                  obtain ⟨second, found⟩ :=
                    ih later restConverted (evaluateAll_eq_ok.mpr restValues)
                  exact ⟨there :: second, by simp only [found]⟩

end Arguments

/-! ## Calls of one function -/

/-- A call that resolves to an invocation of the only function of its name. -/
theorem resolve_call_single {name : String} {callable : Callable}
    (single : scope.lookup name = some [callable]) {written arguments : List Expr}
    {next between : Nat}
    (resolved : resolveAll scope schema written next = .ok (arguments, between))
    {types : List DataType}
    (computed : List.Forall₂ (fun argument type => argument.dataType schema = .ok type)
      arguments types) (result : Expr × Nat) :
    (Expr.call name written).resolve scope schema next = .ok result ↔
      callable.signature.accepts arguments.length = true ∧
      ∃ converted, coerceArguments scope.narrowing callable.signature 0 arguments types
          = .ok converted ∧
        (.invocation { id := between, callable } converted, between + 1) = result := by
  rw [resolve_call_eq resolved, map_eq_ok]
  have typesFound := dataTypes_of_forall₂ computed
  cases accepts : callable.signature.accepts arguments.length with
  | false =>
      rw [selectFunction_of_none_accepts single (List.forall_mem_singleton.mpr accepts)]
      simp
  | true =>
      have alone : ∀ lt : Callable → Callable → Bool, stableSort lt [callable] = [callable] :=
        fun _ => rfl
      have chosen : selectFunction scope schema name arguments
          = (choose scope.narrowing arguments types (.undefinedFunction name)
              [callable]).mapError .analysis := by
        simp [selectFunction, single, accepts, typesFound, alone]
      rw [chosen]
      cases converted : coerceArguments scope.narrowing callable.signature 0 arguments types with
      | error error => simp [choose, converted, Except.mapError]
      | ok arguments => simp [choose, converted, Except.mapError]

/-- What converted arguments fold to decides the value of an invocation. -/
theorem evaluate_invocation_of_fold {context : RowContext} (function : ResolvedFunction)
    {first second : List Expr} (same : first.map fold = second.map fold) :
    (Expr.invocation function first).evaluate context
      = (Expr.invocation function second).evaluate context := by
  have folded : ∀ arguments : List Expr,
      evaluateAll context (arguments.map fold) = evaluateAll context arguments :=
    fun arguments => evaluateAll_map fun argument _ => evaluate_fold context argument
  rw [evaluate, evaluate, ← folded first, ← folded second, same]

/-- The rules rewrite the arguments of an invocation one by one. -/
theorem applyRules_invocation (function : ResolvedFunction) (arguments : List Expr) :
    (Expr.invocation function arguments).applyRules RewriteRule.defaults
      = .invocation function (arguments.map (applyRules RewriteRule.defaults)) := by
  have folded : (Expr.invocation function arguments).fold
      = .invocation function (arguments.map fold) := by
    rw [fold, rewrite, rewriteAll_eq_map]
    rfl
  have normalized : (Expr.invocation function (arguments.map fold)).normalize
      = .invocation function ((arguments.map fold).map normalize) := by
    rw [normalize, rewrite, rewriteAll_eq_map]
    rfl
  show (Expr.invocation function arguments).fold.normalize = _
  rw [folded, normalized, List.map_map]
  rfl

theorem forall₂_stands_set {arguments : List Expr} {position : Nat} {argument : Expr}
    {value : Value} (atPosition : arguments[position]? = some argument)
    (constant : argument.IsConstant) (folds : argument.fold = .literal value) :
    List.Forall₂ Stands arguments (arguments.set position (.literal value)) := by
  induction arguments generalizing position with
  | nil => cases atPosition
  | cons first rest ih =>
      cases position with
      | zero =>
          cases atPosition
          exact .cons (.literal constant folds) (List.forall₂_same.mpr fun other _ => .same other)
      | succ position => exact .cons (.same first) (ih atPosition)

/-- **A constant argument is as good as its value.**  In a call of a function with one
signature, an argument that is built from scalar literals, operators, casts and tests for
`NULL` may be exchanged for the literal that it folds to, whatever the policy on narrowing:
the call resolves and has a value on a row if and only if it does so with the literal, and
the value is the same.  Where the call with the literal resolves, the other one does, and
after one pass of the rewriting rules both are the same invocation of the same arguments. -/
theorem resolve_call_constant (scope : FunctionScope) (schema : Schema) (name : String)
    (callable : Callable) (arguments : List Expr) (position : Nat) (argument : Expr)
    (value : Value) (next : Nat) (single : scope.lookup name = some [callable])
    (atPosition : arguments[position]? = some argument) (constant : argument.IsConstant)
    (folds : argument.fold = .literal value) :
    let written := Expr.call name arguments
    let literal := Expr.call name (arguments.set position (.literal value))
    (∀ policy row index result,
      (∃ resolved after, written.resolve scope schema next = .ok (resolved, after) ∧
        resolved.evaluate { schema, policy, row, index } = .ok result) ↔
      ∃ resolved after, literal.resolve scope schema next = .ok (resolved, after) ∧
        resolved.evaluate { schema, policy, row, index } = .ok result) ∧
    ∀ resolved after, literal.resolve scope schema next = .ok (resolved, after) →
      ∃ other function optimized, written.resolve scope schema next = .ok (other, after) ∧
        other.applyRules RewriteRule.defaults = .invocation function optimized ∧
        resolved.applyRules RewriteRule.defaults = .invocation function optimized := by
  intro written literal
  have pairs := forall₂_stands_set atPosition constant folds
  rcases resolveAll_stands pairs scope schema next with
    ⟨error, failed, otherFailed⟩ | ⟨first, second, between, resolved, otherResolved, alike⟩
  · -- An argument is not resolved, with the literal or without.
    have writtenFailed : written.resolve scope schema next = .error error := by
      simp only [written, resolve, bind, StateT.bind, Except.bind, failed]
    have literalFailed : literal.resolve scope schema next = .error error := by
      simp only [literal, resolve, bind, StateT.bind, Except.bind, otherFailed]
    simp only [writtenFailed, literalFailed]
    simp
  · obtain ⟨types, computed⟩ := exists_types_of_resolveAll resolved
    have otherComputed := forall₂_dataType_of_stands alike computed
    have writtenIff := resolve_call_single single resolved computed
    have literalIff := resolve_call_single single otherResolved otherComputed
    rw [alike.length_eq] at writtenIff
    -- Where the call with the literal is resolved, the other one is, to what folds to the same.
    have transfer : ∀ result, literal.resolve scope schema next = .ok result →
        ∃ one two, written.resolve scope schema next
            = .ok (.invocation { id := between, callable } one, between + 1) ∧
          result = (.invocation { id := between, callable } two, between + 1) ∧
          one.map fold = two.map fold := by
      intro result isResolved
      obtain ⟨accepts, two, converted, rfl⟩ := (literalIff _).mp isResolved
      obtain ⟨one, otherConverted, same⟩ := coerceArguments_of_stands alike computed converted
      exact ⟨one, two, (writtenIff _).mpr ⟨accepts, one, otherConverted, rfl⟩, rfl, same⟩
    refine ⟨fun policy row index result => ⟨?_, ?_⟩, ?_⟩
    · rintro ⟨_, _, isResolved, evaluated⟩
      obtain ⟨accepts, one, converted, same⟩ := (writtenIff _).mp isResolved
      cases same
      obtain ⟨values, hasValues⟩ : ∃ values,
          evaluateAll { schema, policy, row, index } one = .ok values := by
        rw [evaluate] at evaluated
        split at evaluated
        · cases evaluated
        · next values hasValues => exact ⟨values, hasValues⟩
      obtain ⟨two, otherConverted⟩ := coerceArguments_of_values alike computed converted hasValues
      obtain ⟨other, again, sameFold⟩ := coerceArguments_of_stands alike computed otherConverted
      obtain rfl : one = other := Except.ok.inj (converted.symm.trans again)
      refine ⟨_, _, (literalIff _).mpr ⟨accepts, two, otherConverted, rfl⟩, ?_⟩
      rwa [← evaluate_invocation_of_fold _ sameFold]
    · rintro ⟨_, _, isResolved, evaluated⟩
      obtain ⟨one, two, writtenResolved, same, sameFold⟩ := transfer _ isResolved
      cases same
      refine ⟨_, _, writtenResolved, ?_⟩
      rwa [evaluate_invocation_of_fold _ sameFold]
    · intro _ _ isResolved
      obtain ⟨one, two, writtenResolved, same, sameFold⟩ := transfer _ isResolved
      cases same
      have sameArguments : one.map (applyRules RewriteRule.defaults)
          = two.map (applyRules RewriteRule.defaults) := by
        have pass : ∀ arguments : List Expr, arguments.map (applyRules RewriteRule.defaults)
            = (arguments.map fold).map normalize := fun arguments => by
          rw [List.map_map]
          rfl
        rw [pass one, pass two, sameFold]
      refine ⟨_, _, _, writtenResolved, applyRules_invocation _ one, ?_⟩
      rw [applyRules_invocation, sameArguments]

/-- Where a function takes an integer, the sum `1.50 + 0.50` is as good as its value `2.00`:
the one is cast and the other is narrowed to `2`. -/
theorem resolve_call_constant_of_sum :
    let function : Callable := .scalar (.dynamic
      { name := "f", parameters := [.int], returnType := .int, arity := .fixed 1 }
      fun values => .ok (values.head?.getD .null))
    let scope : FunctionScope := {
      registered := { caseSensitive := true, entries := [("f", [function])] }
      builtin := {}
      narrowing := .exact }
    let hundredths (coefficient : Nat) (fits : coefficient < twoPow 96) : Expr :=
      .literal (.decimal ⟨false, coefficient, 2, fits, by decide⟩)
    let sum : Expr :=
      .binary (.arithmetic .add) (hundredths 150 (by decide)) (hundredths 50 (by decide))
    let two : Value := .int (.wrap 2)
    sum.IsConstant ∧ sum.fold = hundredths 200 (by decide) ∧
      ∃ resolved after, (Expr.call "f" [sum]).resolve scope {} 0 = .ok (resolved, after) ∧
        resolved.evaluate { schema := {}, policy := .abort, row := [], index := 0 } = .ok two ∧
        resolved.applyRules RewriteRule.defaults
          = .invocation ⟨0, function⟩ [.literal two] := by
  intro function scope hundredths sum two
  have constant : sum.IsConstant := by
    simp [sum, hundredths, IsConstant, IsConstantPart, Value.ownType, DataType.isAtomic]
  have folds : sum.fold = hundredths 200 (by decide) := rfl
  have narrowed : (Expr.call "f" [hundredths 200 (by decide)]).resolve scope {} 0
      = .ok (.invocation ⟨0, function⟩ [.literal two], 1) := rfl
  obtain ⟨sameValue, sameInvocation⟩ := resolve_call_constant scope {} "f" function [sum] 0 sum _
    0 rfl rfl constant folds
  obtain ⟨resolved, after, isResolved, evaluated⟩ := (sameValue .abort [] 0 two).mpr
    ⟨_, _, narrowed, rfl⟩
  obtain ⟨other, _, optimized, again, first, second⟩ := sameInvocation _ _ narrowed
  rw [isResolved] at again
  cases again
  exact ⟨constant, folds, _, _, isResolved, evaluated, first.trans (second.symm.trans rfl)⟩

end Expr

end ScalarSql
