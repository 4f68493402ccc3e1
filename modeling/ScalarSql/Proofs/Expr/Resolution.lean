import ScalarSql.Expr.Resolution
import ScalarSql.Proofs.Computation
import ScalarSql.Proofs.Expr.Operands
import ScalarSql.Proofs.Expr.Typing
import ScalarSql.Proofs.StableSort

/-!
# Resolution gives typed expressions

What `Expr.resolve` accepts it turns into an expression that has a type over the schema,
`Expr.typed_of_resolve`.  Conversely a typed expression is resolved already: resolving it
returns it as it is and numbers no invocation, `Expr.HasType.resolve`.  Together they say
that the typed expressions are the results of resolution.

**Calls.**  The one step that rewrites is the conversion of the arguments of a call; each
converted argument is typed because every implicit conversion is a cast that could be
asked for.

**Parts.**  Resolution makes a column, the invocation of a call, or the same root over the
resolved operands, `Expr.resolve_cases`.  So a property of all parts is carried over once it
holds of what resolution makes itself, `Expr.CarriedOver.all_of_resolve`.

**Type preservation.**  With `Expr.HasType.evaluate_sound` this gives the contract of the
evaluator, `Expr.resolve_evaluate_hasType`.
-/

set_option autoImplicit false

namespace ScalarSql

/-- A conversion that happens on its own can also be asked for. -/
theorem DataType.castable_of_coercion? {source target : DataType} {kind : Coercion}
    (found : coercion? source target = some kind) : source.castable target = true := by
  simp [castable, found]

/-- Everything converts from an untyped `NULL`. -/
theorem DataType.castable_of_unresolved (target : DataType) :
    DataType.unresolved.castable target = true := rfl

/-- All functions that calls can go to are checked by the library. -/
def FunctionScope.Scalar (scope : FunctionScope) : Prop :=
  ∀ name callables, scope.lookup name = some callables →
    ∀ callable ∈ callables, ∃ body, callable = .scalar body

namespace Expr

variable {scope : FunctionScope} {schema : Schema}

/-! ## Arguments of calls -/

/-- The types of expressions are computed one by one. -/
theorem dataTypes_eq_ok {arguments : List Expr} {types : List DataType}
    (computed : dataTypes schema arguments = .ok types) :
    List.Forall₂ (fun argument type => argument.dataType schema = .ok type) arguments types := by
  induction arguments generalizing types with
  | nil =>
      cases computed
      exact .nil
  | cons first rest ih =>
      simp only [dataTypes] at computed
      split at computed
      · cases computed
      · next type firstType =>
          split at computed
          · cases computed
          · next others restTypes =>
              cases computed
              exact .cons firstType (ih restTypes)

/-- An argument of a call and what it may be converted to: itself, a cast that could be
asked for, or the number that it writes in another type. -/
inductive Converts (schema : Schema) (argument : Expr) : Expr → Prop
  | same : Converts schema argument argument
  | cast {source target : DataType} {checked : Bool}
      (computed : argument.dataType schema = .ok source)
      (allowed : source.castable target = true) :
      Converts schema argument (.cast argument target checked)
  | narrowed {number : Decimal} {target : DataType} {policy : Narrowing} {value : Value}
      (narrowed : number.narrow? target policy = some value) :
      Converts schema argument (.literal value)

theorem converts_of_coerce {argument converted : Expr} {source target : DataType}
    {policy : Narrowing} (computed : argument.dataType schema = .ok source)
    (result : argument.coerce source target policy = .expr converted) :
    Converts schema argument converted := by
  unfold coerce at result
  split at result
  · cases result
  · cases result
    exact .same
  · next found =>
      cases result
      exact .cast computed (DataType.castable_of_coercion? found)
  · next found =>
      split at result
      · cases result
        exact .cast computed (DataType.castable_of_coercion? found)
      · split at result
        · next narrowed =>
            cases result
            exact .narrowed narrowed
        · cases result

theorem converts_of_coerceArgument {argument converted : Expr} {actual : DataType}
    {policy : Narrowing} {signature : Signature} {position : Nat}
    (computed : argument.dataType schema = .ok actual)
    (result : coerceArgument policy signature position argument actual = .ok converted) :
    Converts schema argument converted := by
  unfold coerceArgument at result
  split at result
  · next untyped =>
      cases result
      have untyped : actual = .unresolved := eq_of_beq untyped
      exact .cast computed (untyped ▸ DataType.castable_of_unresolved _)
  · dsimp only at result
    split at result
    · next coerced =>
        cases result
        exact converts_of_coerce computed coerced
    · cases result
    · cases result

theorem converts_of_coerceArguments {policy : Narrowing} {signature : Signature}
    {position : Nat} {arguments converted : List Expr} {types : List DataType}
    (computed : List.Forall₂ (fun argument type => argument.dataType schema = .ok type)
      arguments types)
    (result : coerceArguments policy signature position arguments types = .ok converted) :
    List.Forall₂ (Converts schema) arguments converted := by
  induction computed generalizing position converted with
  | nil =>
      cases result
      exact .nil
  | cons first rest ih =>
      simp only [coerceArguments] at result
      split at result
      · cases result
      · next head headResult =>
          split at result
          · cases result
          · next tail tailResult =>
              cases result
              exact .cons (converts_of_coerceArgument first headResult) (ih tailResult)

/-- The chosen function is one of the candidates, and takes the converted arguments. -/
theorem of_choose {policy : Narrowing} {arguments : List Expr} {types : List DataType}
    {missing : AnalysisError} {candidates : List Callable} {choice : Callable × List Expr}
    (result : choose policy arguments types missing candidates = .ok choice) :
    choice.1 ∈ candidates ∧
      coerceArguments policy choice.1.signature 0 arguments types = .ok choice.2 := by
  induction candidates with
  | nil => cases result
  | cons first rest ih =>
      simp only [choose] at result
      split at result
      · next converted =>
          cases result
          exact ⟨List.mem_cons_self, converted⟩
      · split at result
        · next later =>
            cases result
            obtain ⟨member, converted⟩ := ih later
            exact ⟨List.mem_cons_of_mem _ member, converted⟩
        · cases result

/-- The selected function is known by the name of the call and accepts the number of
arguments, which are converted to the types of its parameters. -/
theorem selectFunction_eq_ok {name : String} {arguments : List Expr}
    {choice : Callable × List Expr}
    (result : selectFunction scope schema name arguments = .ok choice) :
    (∃ candidates, scope.lookup name = some candidates ∧ choice.1 ∈ candidates) ∧
      choice.1.signature.accepts arguments.length = true ∧
      ∃ types, List.Forall₂ (fun argument type => argument.dataType schema = .ok type)
          arguments types ∧
        coerceArguments scope.narrowing choice.1.signature 0 arguments types = .ok choice.2 := by
  unfold selectFunction at result
  split at result
  · cases result
  · next candidates found =>
      dsimp only at result
      split at result
      · cases result
      · split at result
        · cases result
        · next types computed =>
            obtain ⟨member, converted⟩ := of_choose (mapError_eq_ok.mp result)
            obtain ⟨candidate, accepted⟩ := List.mem_filter.mp ((mem_stableSort _).mp member)
            exact ⟨⟨candidates, found, candidate⟩, accepted, types, dataTypes_eq_ok computed,
              converted⟩

/-- The arguments of the selected function are converted one by one. -/
theorem converts_of_selectFunction {name : String} {arguments : List Expr}
    {choice : Callable × List Expr}
    (result : selectFunction scope schema name arguments = .ok choice) :
    List.Forall₂ (Converts schema) arguments choice.2 := by
  obtain ⟨-, -, _, types, converted⟩ := selectFunction_eq_ok result
  exact converts_of_coerceArguments types converted

/-- The invocation that a call resolves to. -/
theorem of_resolveCall {name : String} {arguments : List Expr} {next : Nat}
    {resolved : Expr × Nat}
    (result : resolveCall scope schema name arguments next = .ok resolved) :
    ∃ callable converted id,
      selectFunction scope schema name arguments = .ok (callable, converted) ∧
        resolved.1 = .invocation { id, callable } converted := by
  simp only [resolveCall, state_bind_eq_ok, state_lift_eq_ok, mapError_eq_ok, invoke?] at result
  obtain ⟨⟨callable, converted⟩, _, ⟨selected, -⟩, id, _, -, invoked, -⟩ := result
  split at invoked
  · exact ⟨callable, converted, id, selected, (Except.ok.inj invoked).symm⟩
  · cases invoked

/-- A column that resolves is known and stays as it is. -/
theorem of_resolveColumn {name : String} {next : Nat} {resolved : Expr × Nat}
    (result : resolveColumn schema name next = .ok resolved) :
    (∃ index, schema.indexOf? name = some index) ∧ resolved.1 = .column name := by
  cases position : schema.indexOf? name with
  | none =>
      simp only [resolveColumn, position] at result
      exact absurd result state_throw_ne_ok
  | some index =>
      simp only [resolveColumn, position, state_pure_eq_ok] at result
      exact ⟨⟨index, rfl⟩, by rw [← result]⟩

/-! ## Types of what is resolved -/

theorem Converts.typed {argument converted : Expr} (converts : Converts schema argument converted)
    (typed : Typed schema argument) : Typed schema converted := by
  obtain ⟨type, typed⟩ := typed
  cases converts with
  | same => exact ⟨type, typed⟩
  | cast computed allowed =>
      obtain rfl := typed.unique computed
      exact ⟨_, .cast typed allowed⟩
  | narrowed _ => exact ⟨_, .literal _⟩

/-- A call with typed arguments becomes a typed invocation. -/
theorem typed_of_resolveCall {name : String} {arguments : List Expr} {next : Nat}
    {resolved : Expr × Nat} (typed : ∀ argument ∈ arguments, Typed schema argument)
    (result : resolveCall scope schema name arguments next = .ok resolved) :
    Typed schema resolved.1 := by
  obtain ⟨_, _, _, selected, invoked⟩ := of_resolveCall result
  have converts := converts_of_selectFunction selected
  rw [invoked]
  have stillTyped := forall_mem_of_forall₂ converts typed fun _ _ => Converts.typed
  exact ⟨_, typed_invocation _ stillTyped⟩

/-! ## Operators, columns and fields -/

/-- An operator that passes the check of its operands, which have types. -/
theorem eq_of_checked {expr : Expr} {next : Nat} {resolved : Expr × Nat}
    (result : checked schema expr next = .ok resolved) :
    checkOperator schema expr = .ok () ∧ resolved = (expr, next) := by
  cases valid : checkOperator schema expr with
  | error error =>
      simp only [checked, valid] at result
      exact absurd result state_throw_ne_ok
  | ok _ =>
      simp only [checked, valid] at result
      exact ⟨rfl, (state_pure_eq_ok.mp result).symm⟩

/-- A unary operator is resolved by resolving its operand and checking it. -/
theorem eq_of_checkedOperand {wrap : Expr → Expr} {operand : Expr} {next : Nat}
    {resolved : Expr × Nat}
    (result : (operand.resolve scope schema >>= fun inner => checked schema (wrap inner)) next
      = .ok resolved) :
    ∃ inner after, operand.resolve scope schema next = .ok (inner, after) ∧
      checkOperator schema (wrap inner) = .ok () ∧ resolved = (wrap inner, after) := by
  obtain ⟨inner, after, innerResult, result⟩ := state_bind_eq_ok.mp result
  obtain ⟨valid, rfl⟩ := eq_of_checked result
  exact ⟨inner, after, innerResult, valid, rfl⟩

theorem typed_of_resolveColumn {name : String} {next : Nat} {resolved : Expr × Nat}
    (result : resolveColumn schema name next = .ok resolved) : Typed schema resolved.1 := by
  obtain ⟨⟨_, position⟩, same⟩ := of_resolveColumn result
  obtain ⟨found, declared⟩ := Schema.exists_column?_of_indexOf? position
  rw [same]
  exact ⟨found.type, .column declared⟩

theorem typed_of_accessField {base : Expr} {name : String} {next : Nat}
    {resolved : Expr × Nat} (typed : Typed schema base)
    (result : accessField schema base name next = .ok resolved) :
    Typed schema resolved.1 := by
  simp only [accessField, state_bind_eq_ok, state_lift_eq_ok, state_pure_eq_ok,
    mapError_eq_ok] at result
  obtain ⟨type, _, ⟨computed, -⟩, fieldType, _, ⟨found, -⟩, rfl⟩ := result
  obtain ⟨baseType, baseTyped⟩ := typed
  obtain rfl := baseTyped.unique computed
  cases baseType with
  | struct fields =>
      simp only [DataType.fieldType, DataType.field?, DataType.fields?, Option.bind_some] at found
      split at found
      · next declared => exact ⟨_, .field baseTyped declared⟩
      · cases found
  | _ => cases found

/-! ## Resolution -/

/-- One expression resolves to another. -/
def ResolvesTo (scope : FunctionScope) (schema : Schema) (written resolved : Expr) : Prop :=
  ∃ next after, written.resolve scope schema next = .ok (resolved, after)

theorem forall₂_of_resolveAll {written : List Expr} {next : Nat} {resolved : List Expr × Nat}
    (result : resolveAll scope schema written next = .ok resolved) :
    List.Forall₂ (ResolvesTo scope schema) written resolved.1 := by
  induction written generalizing next resolved with
  | nil =>
      simp only [resolveAll, state_pure_eq_ok] at result
      rw [← result]
      exact .nil
  | cons first rest ih =>
      simp only [resolveAll, state_bind_eq_ok, state_pure_eq_ok] at result
      obtain ⟨_, _, headResult, _, _, tailResult, rfl⟩ := result
      exact .cons ⟨_, _, headResult⟩ (ih tailResult)

/-- What each of several expressions resolves to has a property if every result has it. -/
theorem forall_mem_of_resolvesTo {written resolved : List Expr} {property : Expr → Prop}
    (pairs : List.Forall₂ (ResolvesTo scope schema) written resolved)
    (each : ∀ expr ∈ written, ∀ {next : Nat} {result : Expr × Nat},
      expr.resolve scope schema next = .ok result → property result.1) :
    ∀ expr ∈ resolved, property expr :=
  forall_mem_of_forall₂ pairs each fun _ _ ⟨_, _, result⟩ holds => holds result

/-- **Resolution gives typed expressions.** -/
theorem typed_of_resolve {written : Expr} {next : Nat} {resolved : Expr × Nat}
    (result : written.resolve scope schema next = .ok resolved) :
    Typed schema resolved.1 := by
  induction written using inductionOn generalizing next resolved with
  | column name => exact typed_of_resolveColumn result
  | literal value =>
      simp only [resolve, state_pure_eq_ok] at result
      rw [← result]
      exact ⟨_, .literal value⟩
  | binary op left right leftTyped rightTyped =>
      simp only [resolve, state_bind_eq_ok] at result
      obtain ⟨first, _, firstResult, second, _, secondResult, result⟩ := result
      obtain ⟨valid, rfl⟩ := eq_of_checked result
      obtain ⟨leftType, leftTyped⟩ := leftTyped firstResult
      obtain ⟨rightType, rightTyped⟩ := rightTyped secondResult
      simp only [checkOperator, dataType, leftTyped.dataType, rightTyped.dataType, map_eq_ok,
        mapError_eq_ok] at valid
      obtain ⟨type, combined, -⟩ := valid
      exact ⟨type, .binary leftTyped rightTyped combined⟩
  | not operand typed =>
      simp only [resolve] at result
      obtain ⟨inner, _, innerResult, valid, rfl⟩ := eq_of_checkedOperand result
      obtain ⟨type, typed⟩ := typed innerResult
      simp only [checkOperator, typed.dataType] at valid
      split at valid
      · next accepted => exact ⟨_, .not typed accepted⟩
      · cases valid
  | negate operand typed =>
      simp only [resolve] at result
      obtain ⟨inner, _, innerResult, valid, rfl⟩ := eq_of_checkedOperand result
      obtain ⟨type, typed⟩ := typed innerResult
      simp only [checkOperator, typed.dataType, Bool.or_eq_true, beq_iff_eq] at valid
      split at valid
      · next numeric => exact ⟨_, .negate typed numeric⟩
      · cases valid
  | isNull operand typed =>
      simp only [resolve] at result
      obtain ⟨inner, _, innerResult, -, rfl⟩ := eq_of_checkedOperand result
      obtain ⟨type, typed⟩ := typed innerResult
      exact ⟨_, .isNull typed⟩
  | isNotNull operand typed =>
      simp only [resolve] at result
      obtain ⟨inner, _, innerResult, -, rfl⟩ := eq_of_checkedOperand result
      obtain ⟨type, typed⟩ := typed innerResult
      exact ⟨_, .isNotNull typed⟩
  | cast operand target strict typed =>
      simp only [resolve] at result
      obtain ⟨inner, _, innerResult, valid, rfl⟩ := eq_of_checkedOperand result
      obtain ⟨source, typed⟩ := typed innerResult
      simp only [checkOperator, typed.dataType] at valid
      split at valid
      · next allowed => exact ⟨_, .cast typed allowed⟩
      · cases valid
  | call name arguments each =>
      simp only [resolve, state_bind_eq_ok] at result
      obtain ⟨inner, _, innerResult, result⟩ := result
      exact typed_of_resolveCall
        (forall_mem_of_resolvesTo (forall₂_of_resolveAll innerResult) each) result
  | invocation function arguments each =>
      simp only [resolve, state_bind_eq_ok, state_pure_eq_ok] at result
      obtain ⟨inner, _, innerResult, rfl⟩ := result
      exact ⟨_, typed_invocation function
        (forall_mem_of_resolvesTo (forall₂_of_resolveAll innerResult) each)⟩
  | field base name typed =>
      simp only [resolve] at result
      split at result
      · exact typed_of_resolveColumn result
      · simp only [state_bind_eq_ok] at result
        obtain ⟨inner, _, innerResult, result⟩ := result
        exact typed_of_accessField (typed innerResult) result

/-! ## Properties of all parts -/

/-- The expression with nothing in the place of its operands. -/
def root (expr : Expr) : Expr := expr.mapOperands fun _ => default

/-- **What resolution makes of an expression**: a column, which is written as one or as a
field of its table, the invocation that a call resolves to, or the same root over the
resolved operands. -/
theorem resolve_cases {written : Expr} {next : Nat} {resolved : Expr × Nat}
    (result : written.resolve scope schema next = .ok resolved) :
    (∃ name, resolveColumn schema name next = .ok resolved ∧
      (written = .column name ∨
        ∃ base, written = .field base name ∧ isQualifier schema base = true)) ∨
    (∃ name arguments inner after, written = .call name arguments ∧
      resolveAll scope schema arguments next = .ok (inner, after) ∧
      resolveCall scope schema name inner after = .ok resolved) ∨
    (resolved.1.root = written.root ∧
      List.Forall₂ (ResolvesTo scope schema) written.operands resolved.1.operands) := by
  cases written with
  | column name => exact .inl ⟨name, result, .inl rfl⟩
  | literal value =>
      simp only [resolve, state_pure_eq_ok] at result
      rw [← result]
      exact .inr (.inr ⟨rfl, .nil⟩)
  | binary op left right =>
      simp only [resolve, state_bind_eq_ok] at result
      obtain ⟨_, _, leftResult, _, _, rightResult, result⟩ := result
      obtain ⟨-, rfl⟩ := eq_of_checked result
      exact .inr (.inr ⟨rfl, .cons ⟨_, _, leftResult⟩ (.cons ⟨_, _, rightResult⟩ .nil)⟩)
  | not operand | negate operand | isNull operand | isNotNull operand | cast operand _ _ =>
      simp only [resolve] at result
      obtain ⟨_, _, operandResult, -, rfl⟩ := eq_of_checkedOperand result
      exact .inr (.inr ⟨rfl, .cons ⟨_, _, operandResult⟩ .nil⟩)
  | call name arguments =>
      simp only [resolve, state_bind_eq_ok] at result
      obtain ⟨inner, after, innerResult, result⟩ := result
      exact .inr (.inl ⟨name, arguments, inner, after, rfl, innerResult, result⟩)
  | invocation function arguments =>
      simp only [resolve, state_bind_eq_ok, state_pure_eq_ok] at result
      obtain ⟨inner, _, innerResult, rfl⟩ := result
      have pairs := forall₂_of_resolveAll innerResult
      refine .inr (.inr ⟨?_, pairs⟩)
      simp only [root, mapOperands, List.map_const', pairs.length_eq]
  | field base name =>
      simp only [resolve] at result
      split at result
      · next qualifies => exact .inl ⟨name, result, .inr ⟨base, rfl, qualifies⟩⟩
      · simp only [state_bind_eq_ok, accessField, state_lift_eq_ok, state_pure_eq_ok] at result
        obtain ⟨_, _, baseResult, _, _, -, _, _, -, rfl⟩ := result
        exact .inr (.inr ⟨rfl, .cons ⟨_, _, baseResult⟩ .nil⟩)

/-- Resolution turns expressions all of whose parts have one property into expressions all
of whose parts have another: what it makes itself has the new property, and so has what it
keeps of a part with the old one. -/
structure CarriedOver (scope : FunctionScope) (schema : Schema) (good better : Expr → Prop) :
    Prop where
  column : ∀ name, better (.column name)
  cast : ∀ operand target checked, better (.cast operand target checked)
  narrowed : ∀ {number : Decimal} {target : DataType} {policy : Narrowing} {value : Value},
    number.narrow? target policy = some value → better (.literal value)
  invocation : ∀ {name : String} {arguments : List Expr} {callable : Callable}
    {converted : List Expr},
    selectFunction scope schema name arguments = .ok (callable, converted) →
      ∀ id, better (.invocation { id, callable } converted)
  root : ∀ {expr other : Expr}, other.root = expr.root → good expr → better other

namespace CarriedOver

variable {good better : Expr → Prop}

theorem all_of_converts (carried : CarriedOver scope schema good better)
    {argument converted : Expr} (converts : Converts schema argument converted)
    (all : argument.All better) : converted.All better := by
  cases converts with
  | same => exact all
  | cast _ _ => exact all_cast.mpr ⟨carried.cast _ _ _, all⟩
  | narrowed narrowed => exact all_literal.mpr (carried.narrowed narrowed)

theorem all_of_resolveCall (carried : CarriedOver scope schema good better) {name : String}
    {arguments : List Expr} {next : Nat} {resolved : Expr × Nat}
    (all : ∀ argument ∈ arguments, argument.All better)
    (result : resolveCall scope schema name arguments next = .ok resolved) :
    resolved.1.All better := by
  obtain ⟨_, _, id, selected, invoked⟩ := of_resolveCall result
  rw [invoked]
  exact all_invocation.mpr ⟨carried.invocation selected id,
    forall_mem_of_forall₂ (converts_of_selectFunction selected) all
      fun _ _ => carried.all_of_converts⟩

/-- **Resolution carries properties of all parts over.** -/
theorem all_of_resolve (carried : CarriedOver scope schema good better) {written : Expr}
    {next : Nat} {resolved : Expr × Nat} (all : written.All good)
    (result : written.resolve scope schema next = .ok resolved) : resolved.1.All better := by
  induction written using inductionOnOperands generalizing next resolved with
  | step written ih =>
      obtain ⟨here, below⟩ := all_iff_operands.mp all
      have each : ∀ operand ∈ written.operands, ∀ {next : Nat} {result : Expr × Nat},
          operand.resolve scope schema next = .ok result → result.1.All better :=
        fun operand member _ _ => ih operand member (below operand member)
      rcases resolve_cases result with ⟨name, isColumn, -⟩ |
        ⟨name, arguments, inner, after, rfl, innerResult, called⟩ | ⟨sameRoot, operands⟩
      · rw [(of_resolveColumn isColumn).2]
        exact all_column.mpr (carried.column name)
      · exact carried.all_of_resolveCall
          (forall_mem_of_resolvesTo (forall₂_of_resolveAll innerResult) each) called
      · exact all_iff_operands.mpr
          ⟨carried.root sameRoot here, forall_mem_of_resolvesTo operands each⟩

end CarriedOver

/-! ## Regular expressions stay regular -/

theorem regular_of_narrow? {d : Decimal} {target : DataType} {policy : Narrowing}
    {value : Value} (narrowed : d.narrow? target policy = some value) :
    Regular (.literal value) := by
  rw [Regular, Value.ownType_of_narrow? narrowed]
  exact Value.hasType_of_narrow? narrowed

/-- Whether an expression is regular does not depend on its operands. -/
theorem regular_mapOperands (f : Expr → Expr) (expr : Expr) :
    Regular (expr.mapOperands f) ↔ Regular expr := by
  cases expr <;> rfl

theorem regular_root (expr : Expr) : Regular expr.root ↔ Regular expr :=
  regular_mapOperands _ expr

theorem regular_carriedOver (scalar : scope.Scalar) :
    CarriedOver scope schema Regular Regular where
  column _ := trivial
  cast _ _ _ := trivial
  narrowed := regular_of_narrow?
  invocation selected _ := by
    obtain ⟨⟨candidates, found, candidate⟩, -⟩ := selectFunction_eq_ok selected
    exact scalar _ candidates found _ candidate
  root sameRoot regular := by
    rwa [← regular_root, sameRoot, regular_root]

/-- Resolution keeps literals that fit and only calls checked functions. -/
theorem regular_of_resolve {written : Expr} {next : Nat} {resolved : Expr × Nat}
    (scalar : scope.Scalar) (regular : written.All Regular)
    (result : written.resolve scope schema next = .ok resolved) :
    resolved.1.All Regular :=
  (regular_carriedOver scalar).all_of_resolve regular result

/-! ## Typed expressions are resolved -/

theorem resolveAll_eq_self {arguments : List Expr} {next : Nat}
    (each : ∀ argument ∈ arguments, argument.resolve scope schema next = .ok (argument, next)) :
    resolveAll scope schema arguments next = .ok (arguments, next) := by
  induction arguments with
  | nil => rfl
  | cons first rest ih =>
      obtain ⟨here, later⟩ := List.forall_mem_cons.mp each
      simp only [resolveAll, state_bind_eq_ok, state_pure_eq_ok]
      exact ⟨first, next, here, rest, next, ih later, rfl⟩

theorem checked_eq_ok {expr : Expr} {next : Nat} (valid : checkOperator schema expr = .ok ()) :
    checked schema expr next = .ok (expr, next) := by
  simp only [checked, valid]
  rfl

/-- A typed structure is no qualifier: it is a column if it is a name. -/
theorem HasType.isQualifier_eq_false {base : Expr} {type : DataType}
    (typed : HasType schema base type) : isQualifier schema base = false := by
  cases typed with
  | column declared =>
      obtain ⟨index, position, -⟩ := Schema.column?_eq_some_iff.mp declared
      simp [isQualifier, position]
  | _ => rfl

/-- **Resolving a typed expression changes nothing** and numbers no invocation. -/
theorem HasType.resolve {expr : Expr} {type : DataType} (typed : HasType schema expr type)
    (scope : FunctionScope) (next : Nat) :
    expr.resolve scope schema next = .ok (expr, next) := by
  induction typed with
  | column declared =>
      obtain ⟨index, position, -⟩ := Schema.column?_eq_some_iff.mp declared
      simp only [Expr.resolve, resolveColumn, position]
      rfl
  | literal value => rfl
  | @binary op left right _ _ type leftTyped rightTyped result leftSame rightSame =>
      simp only [Expr.resolve, state_bind_eq_ok]
      refine ⟨left, next, leftSame, right, next, rightSame, checked_eq_ok ?_⟩
      simp only [checkOperator, (leftTyped.binary rightTyped result).dataType]
      rfl
  | @not operand _ typed accepted same =>
      simp only [Expr.resolve, state_bind_eq_ok]
      refine ⟨operand, next, same, checked_eq_ok ?_⟩
      simp only [checkOperator, typed.dataType, accepted, if_true]
  | @negate operand _ typed numeric same =>
      simp only [Expr.resolve, state_bind_eq_ok]
      refine ⟨operand, next, same, checked_eq_ok ?_⟩
      simp [checkOperator, typed.dataType, numeric]
  | @isNull operand _ _ same =>
      simp only [Expr.resolve, state_bind_eq_ok]
      exact ⟨operand, next, same, checked_eq_ok rfl⟩
  | @isNotNull operand _ _ same =>
      simp only [Expr.resolve, state_bind_eq_ok]
      exact ⟨operand, next, same, checked_eq_ok rfl⟩
  | @cast operand _ _ _ typed allowed same =>
      simp only [Expr.resolve, state_bind_eq_ok]
      refine ⟨operand, next, same, checked_eq_ok ?_⟩
      simp only [checkOperator, typed.dataType, allowed, if_true]
  | @invocation function arguments _ _ each =>
      simp only [Expr.resolve, state_bind_eq_ok, state_pure_eq_ok]
      exact ⟨arguments, next, resolveAll_eq_self each, rfl⟩
  | @field base name _ _ typed declared same =>
      simp only [Expr.resolve, typed.isQualifier_eq_false, Bool.false_eq_true, if_false,
        state_bind_eq_ok]
      refine ⟨base, next, same, ?_⟩
      simp only [accessField, state_bind_eq_ok, state_lift_eq_ok, state_pure_eq_ok,
        mapError_eq_ok]
      exact ⟨_, next, ⟨typed.dataType, rfl⟩, _, next, ⟨DataType.fieldType_eq_ok declared, rfl⟩,
        rfl⟩

/-! ## The contract of the evaluator -/

/-- **Evaluation preserves types.**  An expression that resolution returns has a type, and
over every row that fits the schema its value, if there is one, belongs to that type. -/
theorem resolve_evaluate_hasType (scope : FunctionScope) (schema : Schema)
    (written resolved : Expr) (next after : Nat)
    (result : written.resolve scope schema next = .ok (resolved, after))
    (regular : resolved.All Regular) :
    ∃ type, resolved.dataType schema = .ok type ∧
      ∀ (policy : FailurePolicy) (row : Row) (index : Nat), Row.Fits schema.columns row →
        ∀ value, resolved.evaluate { schema, policy, row, index } = .ok value →
          value.hasType type = true := by
  obtain ⟨type, typed⟩ := typed_of_resolve result
  refine ⟨type, typed.dataType, ?_⟩
  intro policy row index fits value evaluated
  have sound : Sound (Value.hasType · type)
      (resolved.evaluate { schema, policy, row, index }) := typed.evaluate_sound regular fits
  rw [evaluated] at sound
  exact sound

/-- A call over a field: `twice(-p.X)`, with the field found under `x` and the argument
widened from `INT` to `BIGINT`, has the value `-6` of type `BIGINT` where `p.x` is `3`. -/
theorem resolve_evaluate_hasType_of_call :
    let twice : Callable := .scalar (.dynamic
      { name := "twice", parameters := [.long], returnType := .long, arity := .fixed 1 } fun
        | [.long value] => .ok (.long (BoundedInt.wrap (2 * value.val)))
        | _ => .ok .null)
    let scope : FunctionScope := {
      registered := { caseSensitive := true, entries := [("twice", [twice])] }
      builtin := {}
      narrowing := .exact }
    let schema : Schema := { columns := [⟨"p", .struct [("x", .int)]⟩] }
    let row : Row := [.struct [("x", .int (BoundedInt.wrap 3))]]
    let value : Value := .long (BoundedInt.wrap (-6))
    let resolved : Expr := .invocation ⟨0, twice⟩
      [.cast (.negate (.field (.column "p") "X")) .long false]
    resolve scope schema (.call "twice" [.negate (.field (.column "p") "X")]) 0
        = .ok (resolved, 1) ∧
      resolved.dataType schema = .ok .long ∧
      resolved.evaluate { schema, policy := .abort, row, index := 0 } = .ok value ∧
      value.hasType .long = true := by
  intro twice scope schema row value resolved
  have result : resolve scope schema (.call "twice" [.negate (.field (.column "p") "X")]) 0
      = .ok (resolved, 1) := rfl
  have regular : resolved.All Regular := by simp [resolved, twice, Regular]
  have fits : Row.Fits schema.columns row := .cons rfl .nil
  have evaluated : resolved.evaluate { schema, policy := .abort, row, index := 0 }
      = .ok value := rfl
  obtain ⟨type, computed, preserves⟩ :=
    resolve_evaluate_hasType scope schema _ resolved 0 1 result regular
  cases computed
  exact ⟨result, rfl, evaluated, preserves .abort row 0 fits value evaluated⟩

end Expr

end ScalarSql
