import ScalarSql.Proofs.Expr.Identity
import ScalarSql.Proofs.SucceedAlike
import ScalarSql.Proofs.Text.LetterCase

/-!
# Expressions up to the case of names

Everything that looks a name up takes no notice of the case of ASCII letters: columns,
qualifiers, fields, aggregate functions, and functions of a registry that ignores case.  Two
names with one small spelling are therefore one name to all of them.

**Expressions without case.**  `Expr.caseless` makes the names of columns, fields and
functions small.  It is the canonical form of an expression up to case: it changes neither
the type of an expression nor its value, `dataType_congr` and `evaluate_congr_caseless`, and
literals stay as they are.

**Two tables.**  Both facts are stated of two tables that find a column of the same type, or
the same value, for every name.  Such tables need not have their columns in one order, which
is what the rows of differently spelled queries are like.

**Rewriting.**  Folding and normalization never look at a name, so they commute with
`Expr.caseless`.
-/

set_option autoImplicit false

namespace ScalarSql

open Text (small)

/-! ## Lookups -/

section Lookup

variable {left right : String} (same : small left = small right)

include same

theorem Schema.indexOf?_congr (schema : Schema) : schema.indexOf? left = schema.indexOf? right := by
  simp only [indexOf?, Text.sameName_congr_right same]

theorem Schema.column?_congr (schema : Schema) : schema.column? left = schema.column? right := by
  simp only [column?, Text.sameName_congr_right same]

theorem Schema.isQualifier_congr (schema : Schema) :
    schema.isQualifier left = schema.isQualifier right := by
  simp only [isQualifier, Text.sameName_congr_right same]

theorem DataType.findNamed?_congr {α : Type} (items : List (String × α)) :
    findNamed? left items = findNamed? right items := by
  simp only [findNamed?, Text.sameName_congr_right same]

theorem DataType.field?_congr (type : DataType) : type.field? left = type.field? right :=
  congrArg type.fields?.bind (funext fun items => findNamed?_congr same items)

theorem DataType.fieldType_congr (type : DataType) :
    (type.fieldType left).toOption = (type.fieldType right).toOption := by
  cases type with
  | struct fields =>
      simp only [fieldType, field?_congr same]
      split
      · rfl
      · rfl
  | _ => rfl

theorem Value.field?_congr (value : Value) : value.field? left = value.field? right := by
  cases value with
  | struct members => simp only [field?, DataType.findNamed?_congr same]
  | _ => rfl

theorem AggregateFunction.ofName?_congr :
    AggregateFunction.ofName? left = AggregateFunction.ofName? right := by
  simp only [ofName?, Text.upper_congr same]

end Lookup

/-- Every name stands for a column of the same type in both schemas, or for none, and
qualifies the columns of both or of none. -/
structure Schema.Matches (first second : Schema) : Prop where
  types : ∀ name,
    (first.column? name).map Column.type = (second.column? name).map Column.type
  qualifiers : ∀ name, first.isQualifier name = second.isQualifier name

theorem Schema.Matches.refl (schema : Schema) : schema.Matches schema :=
  ⟨fun _ => rfl, fun _ => rfl⟩

namespace RowContext

/-- The value of the row under a name. -/
def value? (context : RowContext) (name : String) : Option Value :=
  (context.schema.indexOf? name).bind (context.row[·]?)

/-- Two rows that hold the same values under all names, at one position and under one
policy. -/
structure Matches (first second : RowContext) : Prop where
  policy : first.policy = second.policy
  index : first.index = second.index
  values : ∀ name, first.value? name = second.value? name

theorem Matches.refl (context : RowContext) : context.Matches context :=
  ⟨rfl, rfl, fun _ => rfl⟩

theorem value?_congr (context : RowContext) {left right : String}
    (same : small left = small right) : context.value? left = context.value? right := by
  rw [value?, value?, context.schema.indexOf?_congr same]

end RowContext

theorem Expr.toOption_evaluateColumn (context : RowContext) (name : String) :
    (evaluateColumn context name).toOption = context.value? name := by
  unfold evaluateColumn RowContext.value?
  cases context.schema.indexOf? name with
  | none => rfl
  | some index =>
      dsimp only [Option.bind_some]
      cases context.row[index]? <;> rfl

/-- A registry that ignores case finds the same functions under a name in any case. -/
theorem Registry.lookup_congr {registry : Registry} (ignores : registry.caseSensitive = false)
    {left right : String} (same : small left = small right) :
    registry.lookup left = registry.lookup right := by
  simp only [lookup, key, ignores, Bool.false_eq_true, if_false, Text.lower_congr same]

namespace Expr

/-! ## Expressions without case -/

/-- An expression with its own name small; an invocation is put under the number zero. -/
def caselessStep : Expr → Expr
  | .column name => .column (small name)
  | .call name arguments => .call (small name) arguments
  | .field base name => .field base (small name)
  | .invocation function arguments => .invocation { function with id := 0 } arguments
  | other => other

/-- The expression with all names of columns, fields and functions small, and with all
invocations under the number zero. -/
def caseless : Expr → Expr := rewrite caselessStep

@[simp] theorem caseless_column (name : String) :
    caseless (.column name) = .column (small name) := rfl

@[simp] theorem caseless_literal (value : Value) : caseless (.literal value) = .literal value :=
  rfl

@[simp] theorem caseless_binary (op : Operator) (left right : Expr) :
    caseless (.binary op left right) = .binary op left.caseless right.caseless := rfl

@[simp] theorem caseless_not (operand : Expr) : caseless (.not operand) = .not operand.caseless :=
  rfl

@[simp] theorem caseless_negate (operand : Expr) :
    caseless (.negate operand) = .negate operand.caseless := rfl

@[simp] theorem caseless_isNull (operand : Expr) :
    caseless (.isNull operand) = .isNull operand.caseless := rfl

@[simp] theorem caseless_isNotNull (operand : Expr) :
    caseless (.isNotNull operand) = .isNotNull operand.caseless := rfl

@[simp] theorem caseless_cast (operand : Expr) (target : DataType) (checked : Bool) :
    caseless (.cast operand target checked) = .cast operand.caseless target checked := rfl

@[simp] theorem caseless_call (name : String) (arguments : List Expr) :
    caseless (.call name arguments) = .call (small name) (arguments.map caseless) := by
  rw [caseless, rewrite, rewriteAll_eq_map]
  rfl

@[simp] theorem caseless_invocation (function : ResolvedFunction) (arguments : List Expr) :
    caseless (.invocation function arguments)
      = .invocation { function with id := 0 } (arguments.map caseless) := by
  rw [caseless, rewrite, rewriteAll_eq_map]
  rfl

@[simp] theorem caseless_field (base : Expr) (name : String) :
    caseless (.field base name) = .field base.caseless (small name) := rfl

theorem caseless_caseless (expr : Expr) : expr.caseless.caseless = expr.caseless := by
  induction expr using inductionOn with
  | column name => simp only [caseless_column, Text.small_small]
  | literal value => rfl
  | binary op left right leftSame rightSame => simp only [caseless_binary, leftSame, rightSame]
  | not operand same | negate operand same | isNull operand same | isNotNull operand same
  | cast operand _ _ same =>
      simp only [caseless_not, caseless_negate, caseless_isNull, caseless_isNotNull, caseless_cast,
        same]
  | call name arguments each =>
      simp only [caseless_call, Text.small_small, List.map_map]
      exact congrArg (Expr.call (small name)) (List.map_congr_left each)
  | invocation function arguments each =>
      simp only [caseless_invocation, List.map_map]
      exact congrArg (Expr.invocation _) (List.map_congr_left each)
  | field base name same => simp only [caseless_field, same, Text.small_small]

/-! ## Types and values -/

variable {first second : Schema}

/-- **Types** do not depend on the case of names. -/
theorem dataType_caseless (alike : first.Matches second) (expr : Expr) :
    SucceedAlike Eq (expr.dataType first) (expr.caseless.dataType second) := by
  induction expr using inductionOn with
  | column name =>
      have same := alike.types name
      rw [caseless_column, dataType, dataType,
        second.column?_congr (Text.small_small name)]
      cases left : first.column? name with
      | none =>
          rw [left, Option.map_none, eq_comm, Option.map_eq_none_iff] at same
          rw [same]
          exact .error _ _
      | some column =>
          rw [left, Option.map_some, eq_comm, Option.map_eq_some_iff] at same
          obtain ⟨other, found, sameType⟩ := same
          rw [found]
          exact .ok _ _ sameType.symm
  | literal value => exact .refl _
  | binary op left right leftAlike rightAlike =>
      simp only [caseless_binary, dataType]
      refine leftAlike.elim (fun leftType _ same => ?_) fun _ _ => .error _ _
      subst same
      refine rightAlike.elim (fun rightType _ same => ?_) fun _ _ => .error _ _
      subst same
      exact .refl _
  | not operand _ | isNull operand _ | isNotNull operand _ | cast operand _ _ _ => exact .refl _
  | negate operand alike => exact alike
  | call name arguments _ =>
      rw [caseless_call]
      exact .error _ _
  | invocation function arguments _ =>
      rw [caseless_invocation]
      exact .refl _
  | field base name alike =>
      simp only [caseless_field, dataType]
      refine alike.elim (fun type _ same => ?_) fun _ _ => .error _ _
      subst same
      exact (SucceedAlike.of_toOption (type.fieldType_congr (Text.small_small name).symm)).mapError

theorem dataType_congr (alike : first.Matches second) {left right : Expr}
    (same : left.caseless = right.caseless) :
    SucceedAlike Eq (left.dataType first) (right.dataType second) :=
  (dataType_caseless alike left).trans (same ▸ (dataType_caseless (.refl second) right).symm)
    fun _ _ _ here there => here.trans there.symm

variable {context other : RowContext}

theorem evaluateAll_map_alike {f : Expr → Expr} {arguments : List Expr}
    (each : ∀ argument ∈ arguments,
      SucceedAlike Eq (argument.evaluate context) ((f argument).evaluate other)) :
    SucceedAlike Eq (evaluateAll context arguments) (evaluateAll other (arguments.map f)) := by
  induction arguments with
  | nil => exact .refl _
  | cons first rest ih =>
      obtain ⟨here, later⟩ := List.forall_mem_cons.mp each
      simp only [List.map_cons, evaluateAll]
      refine here.elim (fun value _ same => ?_) fun _ _ => .error _ _
      subst same
      refine (ih later).elim (fun values _ same => ?_) fun _ _ => .error _ _
      subst same
      exact .refl _

/-- **Values** do not depend on the case of names. -/
theorem evaluate_caseless (alike : context.Matches other) (expr : Expr) :
    SucceedAlike Eq (expr.evaluate context) (expr.caseless.evaluate other) := by
  induction expr using inductionOn with
  | column name =>
      refine .of_toOption ?_
      rw [caseless_column, evaluate, evaluate, toOption_evaluateColumn, toOption_evaluateColumn,
        alike.values, other.value?_congr (Text.small_small name)]
  | literal value => exact .refl _
  | binary op left right leftAlike rightAlike =>
      simp only [caseless_binary, evaluate]
      refine leftAlike.elim (fun leftValue _ same => ?_) fun _ _ => .error _ _
      subst same
      dsimp only
      cases shortcut? op leftValue with
      | some decided => exact .refl _
      | none =>
          refine rightAlike.elim (fun rightValue _ same => ?_) fun _ _ => .error _ _
          subst same
          exact .refl _
  | not operand alike | negate operand alike | isNull operand alike | isNotNull operand alike
  | cast operand _ _ alike =>
      simp only [caseless_not, caseless_negate, caseless_isNull, caseless_isNotNull, caseless_cast,
        evaluate]
      refine alike.elim (fun value _ same => ?_) fun _ _ => .error _ _
      subst same
      exact .refl _
  | call name arguments _ =>
      rw [caseless_call]
      exact .error _ _
  | invocation function arguments each =>
      simp only [caseless_invocation, evaluate, alike.policy, alike.index]
      refine (evaluateAll_map_alike each).elim (fun values _ same => ?_) fun _ _ => .error _ _
      subst same
      exact .refl _
  | field base name alike =>
      simp only [caseless_field, evaluate]
      refine alike.elim (fun value _ same => ?_) fun _ _ => .error _ _
      subst same
      dsimp only
      rw [value.field?_congr (Text.small_small name)]
      exact .refl _

theorem evaluate_congr_caseless (alike : context.Matches other) {left right : Expr}
    (same : left.caseless = right.caseless) :
    SucceedAlike Eq (left.evaluate context) (right.evaluate other) :=
  (evaluate_caseless alike left).trans (same ▸ (evaluate_caseless (.refl other) right).symm)
    fun _ _ _ here there => here.trans there.symm

/-! ## Rewriting -/

theorem isLiteral_caseless (expr : Expr) : expr.caseless.isLiteral = expr.isLiteral := by
  cases expr with
  | call name arguments => rw [caseless_call]; rfl
  | invocation function arguments => rw [caseless_invocation]; rfl
  | _ => rfl

theorem mapOperands_caselessStep (f : Expr → Expr) (expr : Expr) :
    expr.caselessStep.mapOperands f = (expr.mapOperands f).caselessStep := by
  cases expr <;> rfl

theorem isFoldable_caseless (expr : Expr) : expr.caseless.isFoldable = expr.isFoldable := by
  cases expr with
  | binary op left right => simp only [caseless_binary, isFoldable, isLiteral_caseless]
  | not operand | negate operand | isNull operand | isNotNull operand | cast operand _ _
  | field operand _ => exact isLiteral_caseless operand
  | call name arguments => rw [caseless_call]; rfl
  | invocation function arguments => rw [caseless_invocation]; rfl
  | _ => rfl

theorem foldedValue?_caseless (expr : Expr) : expr.caseless.foldedValue? = expr.foldedValue? := by
  have values : SucceedAlike Eq expr.evaluateConstant expr.caseless.evaluateConstant :=
    evaluate_caseless (.refl _) expr
  simp only [foldedValue?, isFoldable_caseless]
  refine values.elim (fun value _ same => ?_) fun _ _ => rfl
  subst same
  refine (dataType_caseless (.refl {}) expr).elim (fun type _ same => ?_) fun _ _ => rfl
  subst same
  rfl

theorem caseless_foldStep (expr : Expr) : expr.foldStep.caseless = expr.caseless.foldStep := by
  unfold foldStep
  rw [foldedValue?_caseless]
  cases expr.foldedValue? <;> rfl

/-- Folding looks at no name. -/
theorem caseless_fold (expr : Expr) : expr.fold.caseless = expr.caseless.fold :=
  rewrite_rewrite mapOperands_caselessStep caseless_foldStep expr

theorem caseless_normalizeStep (expr : Expr) :
    expr.normalizeStep.caseless = expr.caseless.normalizeStep := by
  cases expr with
  | binary op left right =>
      simp only [caseless_binary, normalizeStep, isLiteral_caseless]
      split
      · cases op.flip? <;> rfl
      · rfl
  | call name arguments => simp only [normalizeStep, caseless_call]
  | invocation function arguments => simp only [normalizeStep, caseless_invocation]
  | _ => rfl

/-- Normalizing looks at no name. -/
theorem caseless_normalize (expr : Expr) : expr.normalize.caseless = expr.caseless.normalize :=
  rewrite_rewrite mapOperands_caselessStep caseless_normalizeStep expr

theorem throughCasts_caseless : ThroughCasts caseless where
  literal _ := rfl
  cast _ _ _ := rfl
  decimalLiteral? expr := by
    cases expr with
    | call name arguments => rw [caseless_call]; rfl
    | invocation function arguments => rw [caseless_invocation]; rfl
    | _ => rfl

end Expr

end ScalarSql
