import ScalarSql.Proofs.Expr.Resolution

/-!
# The columns of an expression

`Expr.columnNames` lists the columns that an expression refers to, in the order in which
they are written.  Where no name qualifies columns, as above a grouping or a projection,
resolution looks up every one of them, so that an expression that resolves refers to
columns of the schema only.
-/

set_option autoImplicit false

namespace ScalarSql

namespace Expr

/-- The name of a column reference. -/
def columnName? : Expr → Option String
  | .column name => some name
  | _ => none

/-- The names of the columns that an expression refers to, in order. -/
def columnNames (expr : Expr) : List String := expr.parts.filterMap columnName?

@[simp] theorem columnNames_column (name : String) : columnNames (.column name) = [name] := rfl

@[simp] theorem columnNames_literal (value : Value) : columnNames (.literal value) = [] := rfl

@[simp] theorem columnNames_binary (op : Operator) (left right : Expr) :
    columnNames (.binary op left right) = left.columnNames ++ right.columnNames := by
  rw [columnNames, parts, List.filterMap_cons_none rfl, List.filterMap_append]
  rfl

@[simp] theorem columnNames_not (operand : Expr) :
    columnNames (.not operand) = operand.columnNames := rfl

@[simp] theorem columnNames_negate (operand : Expr) :
    columnNames (.negate operand) = operand.columnNames := rfl

@[simp] theorem columnNames_isNull (operand : Expr) :
    columnNames (.isNull operand) = operand.columnNames := rfl

@[simp] theorem columnNames_isNotNull (operand : Expr) :
    columnNames (.isNotNull operand) = operand.columnNames := rfl

@[simp] theorem columnNames_cast (operand : Expr) (target : DataType) (checked : Bool) :
    columnNames (.cast operand target checked) = operand.columnNames := rfl

@[simp] theorem columnNames_call (name : String) (arguments : List Expr) :
    columnNames (.call name arguments) = arguments.flatMap columnNames := by
  simp only [columnNames, parts, columnName?, partsOfAll_eq_flatMap, List.filterMap_cons,
    List.filterMap_flatMap]
  rfl

@[simp] theorem columnNames_invocation (function : ResolvedFunction) (arguments : List Expr) :
    columnNames (.invocation function arguments) = arguments.flatMap columnNames := by
  simp only [columnNames, parts, columnName?, partsOfAll_eq_flatMap, List.filterMap_cons,
    List.filterMap_flatMap]
  rfl

@[simp] theorem columnNames_field (base : Expr) (name : String) :
    columnNames (.field base name) = base.columnNames := rfl

/-! ## Columns of resolved expressions -/

variable {scope : FunctionScope} {schema : Schema}

/-- The schema has a column of the name. -/
def Known (schema : Schema) (name : String) : Prop := ∃ index, schema.indexOf? name = some index

theorem known_of_resolveAll {written : List Expr} {next : Nat} {resolved : List Expr × Nat}
    (each : ∀ expr ∈ written, ∀ {next : Nat} {result : Expr × Nat},
      expr.resolve scope schema next = .ok result → ∀ name ∈ expr.columnNames, Known schema name)
    (result : resolveAll scope schema written next = .ok resolved) :
    ∀ name ∈ written.flatMap columnNames, Known schema name := by
  induction written generalizing next resolved with
  | nil => exact fun _ member => nomatch member
  | cons first rest ih =>
      obtain ⟨here, later⟩ := List.forall_mem_cons.mp each
      simp only [resolveAll, state_bind_eq_ok] at result
      obtain ⟨head, _, headResult, tail, _, tailResult, -⟩ := result
      simp only [List.flatMap_cons, List.forall_mem_append]
      exact ⟨here headResult, ih later tailResult⟩

/-- **An expression that resolves refers to columns of the schema**, if no name qualifies
columns. -/
theorem known_of_resolve {written : Expr} {next : Nat} {resolved : Expr × Nat}
    (bare : schema.qualifiers = [])
    (result : written.resolve scope schema next = .ok resolved) :
    ∀ name ∈ written.columnNames, Known schema name := by
  induction written using inductionOn generalizing next resolved with
  | column name =>
      simp only [columnNames_column, List.forall_mem_singleton]
      exact (of_resolveColumn result).1
  | literal value => simp only [columnNames_literal, List.not_mem_nil, false_implies, implies_true]
  | binary op left right leftKnown rightKnown =>
      simp only [resolve, state_bind_eq_ok] at result
      obtain ⟨_, _, leftResult, _, _, rightResult, -⟩ := result
      simp only [columnNames_binary, List.forall_mem_append]
      exact ⟨leftKnown leftResult, rightKnown rightResult⟩
  | not operand known | negate operand known | isNull operand known
  | isNotNull operand known | cast operand _ _ known =>
      simp only [resolve, state_bind_eq_ok] at result
      obtain ⟨_, _, operandResult, -⟩ := result
      exact known operandResult
  | call name arguments each | invocation function arguments each =>
      simp only [resolve, state_bind_eq_ok] at result
      obtain ⟨_, _, argumentsResult, -⟩ := result
      simp only [columnNames_call, columnNames_invocation]
      exact known_of_resolveAll each argumentsResult
  | field base name known =>
      have unqualified : isQualifier schema base = false := by
        cases base <;> simp [isQualifier, Schema.isQualifier, bare]
      simp only [resolve, unqualified, Bool.false_eq_true, if_false, state_bind_eq_ok] at result
      obtain ⟨_, _, baseResult, -⟩ := result
      exact known baseResult

end Expr

end ScalarSql
