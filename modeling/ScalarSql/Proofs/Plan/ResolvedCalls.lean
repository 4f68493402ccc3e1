import ScalarSql.Proofs.Expr.Overloads
import ScalarSql.Proofs.Plan.Agreement
import ScalarSql.Proofs.Plan.SortedProjection

/-!
# What the calls in a plan become

Analysis resolves every expression of a plan that it accepts, `Plan.ResolvedAmong`.  Each call
in an expression becomes an invocation, which the call would also become on its own, of a
function that its name stands for, `Expr.exists_invocation_of_call`.  The conversion of
arguments does not get in the way, as it only replaces literals.
-/

set_option autoImplicit false

namespace ScalarSql

namespace Expr

variable {scope : FunctionScope} {schema : Schema}

/-! ## Expressions -/

/-- Converting an argument keeps its parts, unless it is a literal. -/
theorem parts_of_coerceArgument {policy : Narrowing} {signature : Signature} {position : Nat}
    {argument converted : Expr} {type : DataType}
    (result : coerceArgument policy signature position argument type = .ok converted) :
    (∃ value, argument = .literal value) ∨ argument.parts ⊆ converted.parts := by
  have cast : ∀ target checked, argument.parts ⊆ (Expr.cast argument target checked).parts :=
    fun _ _ => List.subset_cons_self _ _
  unfold coerceArgument at result
  split at result
  · cases result
    exact .inr (cast _ _)
  · dsimp only at result
    split at result
    · next coerced =>
        cases result
        unfold coerce at coerced
        split at coerced
        · cases coerced
        · cases coerced
          exact .inr fun _ => id
        · cases coerced
          exact .inr (cast _ _)
        · split at coerced
          · cases coerced
            exact .inr (cast _ _)
          · next literal => exact .inl ⟨_, decimalLiteral?_eq_some.mp literal⟩
    · cases result
    · cases result

theorem parts_of_coerceArguments {policy : Narrowing} {signature : Signature} {position : Nat}
    {arguments converted : List Expr} {types : List DataType}
    (sameLength : arguments.length = types.length)
    (result : coerceArguments policy signature position arguments types = .ok converted) :
    List.Forall₂ (fun argument converted => (∃ value, argument = .literal value) ∨
      argument.parts ⊆ converted.parts) arguments converted := by
  induction arguments generalizing position types converted with
  | nil =>
      simp only [coerceArguments] at result
      cases result
      exact .nil
  | cons first rest ih =>
      cases types with
      | nil => cases sameLength
      | cons type types =>
          simp only [coerceArguments] at result
          split at result
          · cases result
          · next head headResult =>
              split at result
              · cases result
              · next tail tailResult =>
                  cases result
                  exact .cons (parts_of_coerceArgument headResult)
                    (ih (Nat.succ.inj sameLength) tailResult)

/-- An invocation in an argument of a call is still there in the invocation that the call
becomes. -/
theorem invocation_mem_of_resolveCall {name : String} {arguments : List Expr} {next : Nat}
    {resolved : Expr × Nat} {argument : Expr} {function : ResolvedFunction} {inner : List Expr}
    (result : resolveCall scope schema name arguments next = .ok resolved)
    (isArgument : argument ∈ arguments) (member : .invocation function inner ∈ argument.parts) :
    .invocation function inner ∈ resolved.1.parts := by
  obtain ⟨callable, converted, id, selected, invoked⟩ := of_resolveCall result
  obtain ⟨-, -, types, typed, coerced⟩ := selectFunction_eq_ok selected
  have kept := parts_of_coerceArguments typed.length_eq coerced
  obtain ⟨index, atIndex⟩ := List.mem_iff_getElem?.mp isArgument
  obtain ⟨other, otherAt, ⟨value, rfl⟩ | subset⟩ := getElem?_of_forall₂ kept atIndex
  · simp [parts] at member
  · rw [invoked, parts_eq_cons]
    exact List.mem_cons_of_mem _
      (List.mem_flatMap.mpr ⟨other, List.mem_of_getElem? otherAt, subset member⟩)

/-- A call resolves to an invocation of a function that its name stands for. -/
theorem invocation_of_call {name : String} {arguments : List Expr} {resolved : Expr}
    (result : ResolvesTo scope schema (.call name arguments) resolved) :
    ∃ function converted candidates, resolved = .invocation function converted ∧
      scope.lookup name = some candidates ∧ function.callable ∈ candidates := by
  obtain ⟨next, after, result⟩ := result
  simp only [resolve, state_bind_eq_ok] at result
  obtain ⟨inner, between, -, called⟩ := result
  obtain ⟨callable, converted, id, selected, invoked⟩ := of_resolveCall called
  obtain ⟨⟨candidates, found, candidate⟩, -⟩ := selectFunction_eq_ok selected
  exact ⟨_, converted, candidates, invoked, found, candidate⟩

/-- **Every call in an expression becomes an invocation** that is part of the result, and that
the call would also resolve to on its own. -/
theorem exists_invocation_of_call {written resolved : Expr} {name : String}
    {arguments : List Expr} (result : ResolvesTo scope schema written resolved)
    (member : .call name arguments ∈ written.parts) :
    ∃ function converted, .invocation function converted ∈ resolved.parts ∧
      ResolvesTo scope schema (.call name arguments) (.invocation function converted) := by
  induction written using inductionOnOperands generalizing resolved with
  | step written ih =>
      rw [parts_eq_cons] at member
      rcases List.mem_cons.mp member with rfl | below
      · obtain ⟨function, converted, -, rfl, -⟩ := invocation_of_call result
        exact ⟨function, converted, by rw [parts_eq_cons]; exact List.mem_cons_self, result⟩
      · obtain ⟨operand, isOperand, inOperand⟩ := List.mem_flatMap.mp below
        -- The invocation is in what the operand resolves to.
        have inResolved : ∀ {others : List Expr},
            List.Forall₂ (ResolvesTo scope schema) written.operands others →
              ∃ other ∈ others, ∃ function converted,
                .invocation function converted ∈ other.parts ∧
                ResolvesTo scope schema (.call name arguments)
                  (.invocation function converted) := by
          intro others pairs
          obtain ⟨index, atIndex⟩ := List.mem_iff_getElem?.mp isOperand
          obtain ⟨other, otherAt, operandResult⟩ := getElem?_of_forall₂ pairs atIndex
          exact ⟨other, List.mem_of_getElem? otherAt, ih operand isOperand operandResult inOperand⟩
        obtain ⟨next, after, result⟩ := result
        rcases resolve_cases result with ⟨_, -, rfl | ⟨base, rfl, qualifies⟩⟩ |
          ⟨outer, others, inner, between, rfl, innerResult, called⟩ | ⟨-, operands⟩
        · cases isOperand
        · -- What qualifies a column is a column itself.
          obtain rfl := List.mem_singleton.mp isOperand
          cases operand with
          | column qualifier => simp [parts] at inOperand
          | _ => cases qualifies
        · obtain ⟨other, isOther, function, converted, invoked, alone⟩ :=
            inResolved (forall₂_of_resolveAll innerResult)
          exact ⟨function, converted, invocation_mem_of_resolveCall called isOther invoked, alone⟩
        · obtain ⟨other, isOther, function, converted, invoked, alone⟩ := inResolved operands
          refine ⟨function, converted, ?_, alone⟩
          rw [parts_eq_cons]
          exact List.mem_cons_of_mem _ (List.mem_flatMap.mpr ⟨other, isOther, invoked⟩)

end Expr

/-! ## Plans -/

namespace Plan

section Analysis

variable {scope : FunctionScope} {catalog : Catalog} {schema : Schema}

/-- The expression is resolved, and the result is among the given ones. -/
def ResolvedAmong (scope : FunctionScope) (results : List Expr) (written : Expr) : Prop :=
  ∃ schema, ∃ resolved ∈ results, Expr.ResolvesTo scope schema written resolved

theorem resolvedAmong_append {own below ownResults belowResults : List Expr}
    (ownResolved : ∀ written ∈ own, ResolvedAmong scope ownResults written)
    (belowResolved : ∀ written ∈ below, ResolvedAmong scope belowResults written) :
    ∀ written ∈ own ++ below, ResolvedAmong scope (ownResults ++ belowResults) written := by
  intro written member
  rcases List.mem_append.mp member with isOwn | isBelow
  · obtain ⟨schema, resolved, isResult, result⟩ := ownResolved written isOwn
    exact ⟨schema, resolved, List.mem_append_left _ isResult, result⟩
  · obtain ⟨schema, resolved, isResult, result⟩ := belowResolved written isBelow
    exact ⟨schema, resolved, List.mem_append_right _ isResult, result⟩

theorem resolvedAmong_of_resolveNamed {items : List NamedExpr} {next : Nat}
    {resolved : (List NamedExpr × List Column) × Nat}
    (result : resolveNamed scope schema items next = .ok resolved) :
    ∀ written ∈ items.map NamedExpr.expr,
      ResolvedAmong scope (resolved.1.1.map NamedExpr.expr) written := by
  refine List.forall_mem_map.mpr fun item isItem => ?_
  obtain ⟨index, atIndex⟩ := List.mem_iff_getElem?.mp isItem
  obtain ⟨start, outcome, itemResult, found⟩ := getElem?_of_resolveNamed result atIndex
  exact ⟨schema, outcome.1, List.mem_map.mpr ⟨_, List.mem_of_getElem? found, rfl⟩, start,
    outcome.2, itemResult⟩

theorem resolvedAmong_of_resolveAggregates {items : List Aggregate} {next : Nat}
    {resolved : (List Aggregate × List Column) × Nat}
    (result : resolveAggregates scope schema items next = .ok resolved) :
    ∀ written ∈ items.map Aggregate.expr,
      ResolvedAmong scope (resolved.1.1.map Aggregate.expr) written := by
  refine List.forall_mem_map.mpr fun item isItem => ?_
  obtain ⟨index, atIndex⟩ := List.mem_iff_getElem?.mp isItem
  obtain ⟨start, outcome, _, itemResult, found, -⟩ := getElem?_of_resolveAggregates result atIndex
  exact ⟨schema, outcome.1, List.mem_map.mpr ⟨_, List.mem_of_getElem? found, rfl⟩, start,
    outcome.2, itemResult⟩

theorem resolvedAmong_of_resolveKeys {keys : List SortKey} {next : Nat}
    {resolved : List SortKey × Nat}
    (result : resolveKeys scope schema keys next = .ok resolved) :
    ∀ written ∈ keys.map SortKey.expr,
      ResolvedAmong scope (resolved.1.map SortKey.expr) written := by
  refine List.forall_mem_map.mpr fun key isKey => ?_
  obtain ⟨index, inRange, rfl⟩ := List.mem_iff_getElem.mp isKey
  have alsoInRange : index < resolved.1.length := by
    rw [length_of_resolveKeys result]
    exact inRange
  have found := List.getElem?_eq_getElem alsoInRange
  obtain ⟨original, start, outcome, atIndex, keyResult, same⟩ :=
    getElem?_of_resolveKeys result found
  rw [List.getElem?_eq_getElem inRange] at atIndex
  cases atIndex
  exact ⟨schema, outcome.1, List.mem_map.mpr ⟨_, List.mem_of_getElem? found, same⟩, start,
    outcome.2, keyResult⟩

/-- **Every expression of an accepted plan** is resolved in the analysed plan. -/
theorem resolvedAmong_of_analyzeNode {plan : Plan} {next : Nat}
    {analyzed : (Plan × Schema) × Nat}
    (accepted : plan.analyzeNode scope catalog next = .ok analyzed) :
    ∀ written ∈ plan.exprs, ResolvedAmong scope analyzed.1.1.exprs written := by
  induction plan generalizing next analyzed with
  | oneRow | scan => exact List.forall_mem_nil _
  | filter predicate input ih =>
      simp only [analyzeNode, state_bind_eq_ok, state_pure_eq_ok] at accepted
      obtain ⟨⟨inner, schema⟩, _, innerAccepted, resolved, _, result, _, _, -, _, _, -, rfl⟩ :=
        accepted
      refine resolvedAmong_append (List.forall_mem_singleton.mpr ?_) (ih innerAccepted)
      exact ⟨schema, resolved, List.mem_singleton_self _, _, _, result⟩
  | project columns input ih =>
      simp only [analyzeNode, state_bind_eq_ok, state_pure_eq_ok] at accepted
      obtain ⟨⟨inner, schema⟩, _, innerAccepted, _, _, result, rfl⟩ := accepted
      refine resolvedAmong_append ?_ (ih innerAccepted)
      cases columns with
      | nil => exact List.forall_mem_nil _
      | cons first rest => exact resolvedAmong_of_resolveNamed result
  | aggregate keys aggregates input ih =>
      simp only [analyzeNode, state_bind_eq_ok, state_pure_eq_ok] at accepted
      obtain ⟨⟨inner, schema⟩, _, innerAccepted, _, _, keysResult, _, _, aggregatesResult, rfl⟩ :=
        accepted
      exact resolvedAmong_append (resolvedAmong_append (resolvedAmong_of_resolveNamed keysResult)
        (resolvedAmong_of_resolveAggregates aggregatesResult)) (ih innerAccepted)
  | sort keys input ih =>
      simp only [analyzeNode, state_bind_eq_ok, state_pure_eq_ok] at accepted
      obtain ⟨⟨inner, schema⟩, _, innerAccepted, resolved, _, result, rfl⟩ := accepted
      exact resolvedAmong_append (resolvedAmong_of_resolveKeys result) (ih innerAccepted)
  | limit count offset input ih =>
      simp only [analyzeNode, state_bind_eq_ok, state_pure_eq_ok] at accepted
      obtain ⟨inner, _, innerAccepted, rfl⟩ := accepted
      have below := ih innerAccepted
      exact below

end Analysis

end Plan

end ScalarSql
