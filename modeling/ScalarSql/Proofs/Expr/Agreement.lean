import ScalarSql.Proofs.Expr.Identity

/-!
# Expressions over different rows

An expression looks at a row through the columns that it names, and nothing else of the
row matters.  Two schemas agree on some names if a column of such a name has the same type
in both.  An expression that resolves over both of them, and only uses names on which they
agree, becomes the same expression up to the numbers of invocations, with the same type,
`Expr.resolve_agree`.  Where two rows hold the same values under the names of an
expression, it has the same value on both, `Expr.evaluate_congr`.

Above a grouping or a projection no name qualifies columns, and resolution does not add
names, `Expr.columnNames_of_resolve`.
-/

set_option autoImplicit false

namespace ScalarSql

/-- The same schema, or two schemas without qualifiers that give the wanted names the same
types. -/
def Schema.Agree (wanted : String → Prop) (first second : Schema) : Prop :=
  (first = second ∧ ∀ name, wanted name) ∨
    (first.qualifiers = [] ∧ second.qualifiers = [] ∧
      ∀ name, wanted name →
        (first.column? name).map Column.type = (second.column? name).map Column.type)

theorem Schema.agree_refl (schema : Schema) : Agree (fun _ => True) schema schema :=
  .inl ⟨rfl, fun _ => trivial⟩

namespace Expr

variable {scope : FunctionScope} {schema : Schema}

/-! ## Columns of resolved expressions -/

theorem Converts.columnNames_subset {argument converted : Expr}
    (converts : Converts schema argument converted) :
    converted.columnNames ⊆ argument.columnNames := by
  cases converts with
  | same => exact List.Subset.refl _
  | cast _ _ => exact List.Subset.refl _
  | narrowed _ => exact List.nil_subset _

/-- Expressions made of others one by one have no further columns if none of them has. -/
theorem columnNames_subset_of_forall₂ {related : Expr → Expr → Prop}
    {written resolved : List Expr} (pairs : List.Forall₂ related written resolved)
    (subset : ∀ expr ∈ written, ∀ other, related expr other →
      other.columnNames ⊆ expr.columnNames) :
    resolved.flatMap columnNames ⊆ written.flatMap columnNames := by
  induction pairs with
  | nil => exact List.Subset.refl _
  | cons first _ ih =>
      obtain ⟨here, later⟩ := List.forall_mem_cons.mp subset
      simp only [List.flatMap_cons]
      exact List.append_subset.mpr
        ⟨List.Subset.trans (here _ first) (List.subset_append_left _ _),
          List.Subset.trans (ih later) (List.subset_append_right _ _)⟩

theorem columnName?_root (expr : Expr) : expr.root.columnName? = expr.columnName? :=
  columnName?_mapOperands _ expr

/-- **Resolution adds no column**, if no name qualifies columns. -/
theorem columnNames_of_resolve {written : Expr} {next : Nat} {resolved : Expr × Nat}
    (bare : schema.qualifiers = [])
    (result : written.resolve scope schema next = .ok resolved) :
    resolved.1.columnNames ⊆ written.columnNames := by
  induction written using inductionOnOperands generalizing next resolved with
  | step written ih =>
      have each : ∀ operand ∈ written.operands, ∀ other, ResolvesTo scope schema operand other →
          other.columnNames ⊆ operand.columnNames :=
        fun operand member _ ⟨_, _, operandResult⟩ => ih operand member operandResult
      rcases resolve_cases result with
        ⟨name, isColumn, rfl | ⟨base, rfl, qualifies⟩⟩ |
        ⟨name, arguments, inner, after, rfl, innerResult, called⟩ | ⟨sameRoot, operands⟩
      · rw [(of_resolveColumn isColumn).2]
        exact List.Subset.refl _
      · cases base <;> simp [isQualifier, Schema.isQualifier, bare] at qualifies
      · obtain ⟨callable, converted, id, selected, invoked⟩ := of_resolveCall called
        rw [invoked, columnNames_invocation, columnNames_call]
        exact List.Subset.trans
          (columnNames_subset_of_forall₂ (converts_of_selectFunction selected)
            fun _ _ _ converts => converts.columnNames_subset)
          (columnNames_subset_of_forall₂ (forall₂_of_resolveAll innerResult) each)
      · have sameName : resolved.1.columnName? = written.columnName? := by
          rw [← columnName?_root, sameRoot, columnName?_root]
        rw [columnNames_eq, columnNames_eq written, sameName]
        exact List.append_subset.mpr ⟨List.subset_append_left _ _,
          List.Subset.trans (columnNames_subset_of_forall₂ operands each)
            (List.subset_append_right _ _)⟩

/-! ## Resolving over two schemas -/

section Agree

variable {wanted : String → Prop} {first second : Schema}

/-- A name qualifies the columns of both schemas or of none. -/
theorem isQualifier_agree (agree : Schema.Agree wanted first second) (base : Expr) :
    isQualifier first base = isQualifier second base := by
  rcases agree with ⟨rfl, -⟩ | ⟨firstBare, secondBare, -⟩
  · rfl
  · cases base <;> simp [isQualifier, Schema.isQualifier, firstBare, secondBare]

theorem dataType_column_agree (agree : Schema.Agree wanted first second) {name : String}
    (named : wanted name) :
    dataType first (.column name) = dataType second (.column name) := by
  rcases agree with ⟨rfl, -⟩ | ⟨-, -, types⟩
  · rfl
  · have same := types name named
    simp only [dataType]
    cases left : first.column? name <;> cases right : second.column? name <;>
      simp_all

theorem dataTypes_agree {left right : List Expr}
    (pairs : List.Forall₂ (fun left right => left.eraseIds = right.eraseIds ∧
      left.dataType first = right.dataType second) left right) :
    left.map eraseIds = right.map eraseIds ∧ dataTypes first left = dataTypes second right := by
  induction pairs with
  | nil => exact ⟨rfl, rfl⟩
  | cons head _ ih => simp only [List.map_cons, dataTypes, head.1, head.2, ih.1, ih.2, and_self]

/-- Calls whose arguments are the same and have the same types go to the same function. -/
theorem selectFunction_agree {name : String} {left right : List Expr}
    {leftChoice rightChoice : Callable × List Expr}
    (erased : left.map eraseIds = right.map eraseIds)
    (types : dataTypes first left = dataTypes second right)
    (leftResult : selectFunction scope first name left = .ok leftChoice)
    (rightResult : selectFunction scope second name right = .ok rightChoice) :
    leftChoice.1 = rightChoice.1 ∧ leftChoice.2.map eraseIds = rightChoice.2.map eraseIds := by
  have overBoth : ∀ arguments : List Expr, dataTypes first arguments = dataTypes second arguments →
      selectFunction scope first name arguments = selectFunction scope second name arguments := by
    intro arguments same
    simp only [selectFunction, same]
  have sameErased : dataTypes first (left.map eraseIds) = dataTypes second (left.map eraseIds) := by
    rw [dataTypes_eraseIds, types, erased, dataTypes_eraseIds]
  have leftErased := selectFunction_eraseIds scope first name left
  have rightErased := selectFunction_eraseIds scope second name right
  rw [leftResult] at leftErased
  rw [rightResult, ← erased, ← overBoth _ sameErased, leftErased] at rightErased
  cases leftChoice
  cases rightChoice
  simpa [Except.map] using rightErased

theorem resolveAll_agree {written : List Expr} {leftNext rightNext : Nat}
    {left right : List Expr × Nat}
    (each : ∀ expr ∈ written, ∀ {leftNext rightNext : Nat} {left right : Expr × Nat},
      expr.resolve scope first leftNext = .ok left →
        expr.resolve scope second rightNext = .ok right →
          left.1.eraseIds = right.1.eraseIds ∧ left.1.dataType first = right.1.dataType second)
    (leftResult : resolveAll scope first written leftNext = .ok left)
    (rightResult : resolveAll scope second written rightNext = .ok right) :
    List.Forall₂ (fun left right => left.eraseIds = right.eraseIds ∧
      left.dataType first = right.dataType second) left.1 right.1 := by
  induction written generalizing leftNext rightNext left right with
  | nil =>
      simp only [resolveAll, state_pure_eq_ok] at leftResult rightResult
      rw [← leftResult, ← rightResult]
      exact .nil
  | cons expr rest ih =>
      obtain ⟨here, later⟩ := List.forall_mem_cons.mp each
      simp only [resolveAll, state_bind_eq_ok, state_pure_eq_ok] at leftResult rightResult
      obtain ⟨_, _, leftHead, _, _, leftTail, rfl⟩ := leftResult
      obtain ⟨_, _, rightHead, _, _, rightTail, rfl⟩ := rightResult
      exact .cons (here leftHead rightHead) (ih later leftTail rightTail)

/-- **Resolving over two schemas** that agree on the columns of an expression gives the
same expression up to the numbers of invocations, with the same type. -/
theorem resolve_agree (agree : Schema.Agree wanted first second) {written : Expr}
    {leftNext rightNext : Nat} {left right : Expr × Nat}
    (named : ∀ name ∈ written.columnNames, wanted name)
    (leftResult : written.resolve scope first leftNext = .ok left)
    (rightResult : written.resolve scope second rightNext = .ok right) :
    left.1.eraseIds = right.1.eraseIds ∧ left.1.dataType first = right.1.dataType second := by
  induction written using inductionOn generalizing leftNext rightNext left right with
  | column name =>
      rw [(of_resolveColumn leftResult).2, (of_resolveColumn rightResult).2]
      exact ⟨rfl, dataType_column_agree agree (named name (by simp))⟩
  | literal value =>
      simp only [resolve, state_pure_eq_ok] at leftResult rightResult
      rw [← leftResult, ← rightResult]
      exact ⟨rfl, rfl⟩
  | binary op one other oneAgrees otherAgrees =>
      simp only [columnNames_binary, List.forall_mem_append] at named
      simp only [resolve, state_bind_eq_ok] at leftResult rightResult
      obtain ⟨_, _, leftOne, _, _, leftOther, leftResult⟩ := leftResult
      obtain ⟨_, _, rightOne, _, _, rightOther, rightResult⟩ := rightResult
      obtain ⟨-, rfl⟩ := eq_of_checked leftResult
      obtain ⟨-, rfl⟩ := eq_of_checked rightResult
      have ones := oneAgrees named.1 leftOne rightOne
      have others := otherAgrees named.2 leftOther rightOther
      simp only [eraseIds_binary, dataType, ones.1, ones.2, others.1, others.2, and_self]
  | not operand agrees =>
      obtain ⟨_, _, leftOperand, -, rfl⟩ := eq_of_checkedOperand leftResult
      obtain ⟨_, _, rightOperand, -, rfl⟩ := eq_of_checkedOperand rightResult
      have operands := agrees named leftOperand rightOperand
      exact ⟨congrArg Expr.not operands.1, rfl⟩
  | negate operand agrees =>
      obtain ⟨_, _, leftOperand, -, rfl⟩ := eq_of_checkedOperand leftResult
      obtain ⟨_, _, rightOperand, -, rfl⟩ := eq_of_checkedOperand rightResult
      have operands := agrees named leftOperand rightOperand
      exact ⟨congrArg Expr.negate operands.1, operands.2⟩
  | isNull operand agrees =>
      obtain ⟨_, _, leftOperand, -, rfl⟩ := eq_of_checkedOperand leftResult
      obtain ⟨_, _, rightOperand, -, rfl⟩ := eq_of_checkedOperand rightResult
      have operands := agrees named leftOperand rightOperand
      exact ⟨congrArg Expr.isNull operands.1, rfl⟩
  | isNotNull operand agrees =>
      obtain ⟨_, _, leftOperand, -, rfl⟩ := eq_of_checkedOperand leftResult
      obtain ⟨_, _, rightOperand, -, rfl⟩ := eq_of_checkedOperand rightResult
      have operands := agrees named leftOperand rightOperand
      exact ⟨congrArg Expr.isNotNull operands.1, rfl⟩
  | cast operand target strict agrees =>
      obtain ⟨_, _, leftOperand, -, rfl⟩ := eq_of_checkedOperand leftResult
      obtain ⟨_, _, rightOperand, -, rfl⟩ := eq_of_checkedOperand rightResult
      have operands := agrees named leftOperand rightOperand
      exact ⟨congrArg (Expr.cast · target strict) operands.1, rfl⟩
  | call name arguments each =>
      simp only [columnNames_call, List.forall_mem_flatMap] at named
      simp only [resolve, state_bind_eq_ok] at leftResult rightResult
      obtain ⟨_, _, leftArguments, leftCall⟩ := leftResult
      obtain ⟨_, _, rightArguments, rightCall⟩ := rightResult
      obtain ⟨erased, types⟩ := dataTypes_agree (resolveAll_agree
        (fun argument member => each argument member (named argument member))
        leftArguments rightArguments)
      obtain ⟨_, _, _, leftSelected, leftInvoked⟩ := of_resolveCall leftCall
      obtain ⟨_, _, _, rightSelected, rightInvoked⟩ := of_resolveCall rightCall
      obtain ⟨callable, converted⟩ :=
        selectFunction_agree erased types leftSelected rightSelected
      dsimp only at callable converted
      simp only [leftInvoked, rightInvoked, eraseIds_invocation, dataType, callable, converted,
        and_self]
  | invocation function arguments each =>
      simp only [columnNames_invocation, List.forall_mem_flatMap] at named
      simp only [resolve, state_bind_eq_ok, state_pure_eq_ok] at leftResult rightResult
      obtain ⟨_, _, leftArguments, rfl⟩ := leftResult
      obtain ⟨_, _, rightArguments, rfl⟩ := rightResult
      obtain ⟨erased, -⟩ := dataTypes_agree (resolveAll_agree
        (fun argument member => each argument member (named argument member))
        leftArguments rightArguments)
      simp only [eraseIds_invocation, dataType, erased, and_self]
  | field base name agrees =>
      simp only [resolve, isQualifier_agree agree] at leftResult
      simp only [resolve] at rightResult
      split at leftResult
      · next qualifies =>
          rw [if_pos qualifies] at rightResult
          -- Different schemas that agree have no qualifiers, so this is one schema.
          rw [(of_resolveColumn leftResult).2, (of_resolveColumn rightResult).2]
          rcases agree with ⟨rfl, -⟩ | ⟨-, secondBare, -⟩
          · exact ⟨rfl, rfl⟩
          · cases base <;> simp [isQualifier, Schema.isQualifier, secondBare] at qualifies
      · next plain =>
          rw [if_neg plain] at rightResult
          simp only [state_bind_eq_ok, accessField, state_lift_eq_ok, state_pure_eq_ok]
            at leftResult rightResult
          obtain ⟨_, _, leftBase, _, _, -, _, _, -, rfl⟩ := leftResult
          obtain ⟨_, _, rightBase, _, _, -, _, _, -, rfl⟩ := rightResult
          have bases := agrees named leftBase rightBase
          simp only [eraseIds_field, dataType, bases.1, bases.2, and_self]

end Agree

/-- Two expressions that are the same up to the numbers of invocations and only use wanted
names. -/
structure Alike (wanted : String → Prop) (left right : Expr) : Prop where
  erased : left.eraseIds = right.eraseIds
  named : ∀ name ∈ left.columnNames, wanted name

/-- Resolving one expression over two schemas that agree on its columns. -/
theorem alike_of_resolve {wanted : String → Prop} {first second : Schema}
    (agree : Schema.Agree wanted first second) {written : Expr}
    {leftNext rightNext : Nat} {left right : Expr × Nat}
    (named : ∀ name ∈ written.columnNames, wanted name)
    (leftResult : written.resolve scope first leftNext = .ok left)
    (rightResult : written.resolve scope second rightNext = .ok right) :
    Alike wanted left.1 right.1 := by
  refine ⟨(resolve_agree agree named leftResult rightResult).1, ?_⟩
  rcases agree with ⟨-, all⟩ | ⟨bare, -, -⟩
  · exact fun name _ => all name
  · exact fun name member => named name (columnNames_of_resolve bare leftResult member)

end Expr

/-! ## Evaluating over two rows -/

/-- Two rows that hold the same values under the wanted names, at one position and under
one policy. -/
structure RowContext.Agree (wanted : String → Prop) (first second : RowContext) : Prop where
  policy : first.policy = second.policy
  index : first.index = second.index
  columns : ∀ name, wanted name →
    Expr.evaluateColumn first name = Expr.evaluateColumn second name

namespace Expr

variable {wanted : String → Prop} {first second : RowContext}

theorem evaluateAll_congr {arguments : List Expr}
    (each : ∀ argument ∈ arguments, argument.evaluate first = argument.evaluate second) :
    evaluateAll first arguments = evaluateAll second arguments := by
  induction arguments with
  | nil => rfl
  | cons head rest ih =>
      obtain ⟨here, later⟩ := List.forall_mem_cons.mp each
      simp only [evaluateAll, here, ih later]

/-- **A value depends on the columns of the expression only.** -/
theorem evaluate_congr (agree : first.Agree wanted second) {expr : Expr}
    (named : ∀ name ∈ expr.columnNames, wanted name) :
    expr.evaluate first = expr.evaluate second := by
  induction expr using inductionOn with
  | column name => exact agree.columns name (named name (by simp))
  | literal value => rfl
  | binary op left right leftSame rightSame =>
      simp only [columnNames_binary, List.forall_mem_append] at named
      simp only [evaluate, leftSame named.1, rightSame named.2]
  | not operand same | negate operand same | isNull operand same | isNotNull operand same
  | cast operand _ _ same | field operand _ same => simp only [evaluate, same named]
  | call name arguments _ => rw [evaluate, evaluate]
  | invocation function arguments each =>
      simp only [columnNames_invocation, List.forall_mem_flatMap] at named
      rw [evaluate, evaluate, agree.policy, agree.index,
        evaluateAll_congr fun argument member => each argument member (named argument member)]

/-- Two expressions that are alike have the same value on rows that agree. -/
theorem Alike.evaluate {left right : Expr} (alike : Alike wanted left right)
    (agree : first.Agree wanted second) : left.evaluate first = right.evaluate second := by
  rw [evaluate_congr agree alike.named, ← evaluate_eraseIds second left, alike.erased,
    evaluate_eraseIds]

end Expr

end ScalarSql
