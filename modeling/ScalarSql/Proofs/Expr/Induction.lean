import ScalarSql.Expr.Basic

/-!
# Induction on expressions

An expression has lists of arguments inside it, so its structural induction speaks about
an expression and a list of expressions at once.  `Expr.inductionOn` packages this: the
hypothesis for a call or an invocation holds of every argument.

`Expr.All` says that a property holds of an expression and of all expressions in it.  Each
constructor has one lemma that splits the statement into the root and the operands, so
that no proof has to look into the list of parts.
-/

set_option autoImplicit false

namespace ScalarSql

namespace Expr

/-! ## The induction principle -/

section Induction

variable {motive : Expr → Prop}
  (column : ∀ name, motive (.column name))
  (literal : ∀ value, motive (.literal value))
  (binary : ∀ op left right, motive left → motive right → motive (.binary op left right))
  (not : ∀ operand, motive operand → motive (.not operand))
  (negate : ∀ operand, motive operand → motive (.negate operand))
  (isNull : ∀ operand, motive operand → motive (.isNull operand))
  (isNotNull : ∀ operand, motive operand → motive (.isNotNull operand))
  (cast : ∀ operand target checked, motive operand → motive (.cast operand target checked))
  (call : ∀ name arguments, (∀ argument ∈ arguments, motive argument) →
    motive (.call name arguments))
  (invocation : ∀ function arguments, (∀ argument ∈ arguments, motive argument) →
    motive (.invocation function arguments))
  (field : ∀ base name, motive base → motive (.field base name))

include column literal binary not negate isNull isNotNull cast call invocation field

/-- A property of all expressions whose operands and arguments have it holds of every
expression. -/
@[elab_as_elim]
theorem inductionOn (expr : Expr) : motive expr :=
  @Expr.rec motive (fun arguments => ∀ argument ∈ arguments, motive argument)
    column literal binary not negate isNull isNotNull cast call invocation field
    (fun _ member => nomatch member)
    (fun _ _ here later => List.forall_mem_cons.mpr ⟨here, later⟩)
    expr

end Induction

/-! ## Properties of all parts -/

/-- The property holds of the expression and of all expressions in it. -/
def All (property : Expr → Prop) (expr : Expr) : Prop :=
  ∀ part ∈ expr.parts, property part

section All

variable {property : Expr → Prop}

theorem partsOfAll_eq_flatMap (arguments : List Expr) :
    partsOfAll arguments = arguments.flatMap parts := by
  induction arguments with
  | nil => rfl
  | cons first rest ih => rw [partsOfAll, ih, List.flatMap_cons]

theorem mem_partsOfAll {part : Expr} {arguments : List Expr} :
    part ∈ partsOfAll arguments ↔ ∃ argument ∈ arguments, part ∈ argument.parts := by
  rw [partsOfAll_eq_flatMap, List.mem_flatMap]

theorem forall_mem_partsOfAll {arguments : List Expr} :
    (∀ part ∈ partsOfAll arguments, property part) ↔
      ∀ argument ∈ arguments, argument.All property := by
  simp only [mem_partsOfAll, All]
  constructor
  · intro holds argument member part inside
    exact holds part ⟨argument, member, inside⟩
  · rintro holds part ⟨argument, member, inside⟩
    exact holds argument member part inside

@[simp] theorem all_column {name : String} :
    All property (.column name) ↔ property (.column name) :=
  List.forall_mem_singleton

@[simp] theorem all_literal {value : Value} :
    All property (.literal value) ↔ property (.literal value) :=
  List.forall_mem_singleton

@[simp] theorem all_binary {op : Operator} {left right : Expr} :
    All property (.binary op left right) ↔
      property (.binary op left right) ∧ left.All property ∧ right.All property :=
  List.forall_mem_cons.trans (and_congr_right' List.forall_mem_append)

@[simp] theorem all_not {operand : Expr} :
    All property (.not operand) ↔ property (.not operand) ∧ operand.All property :=
  List.forall_mem_cons

@[simp] theorem all_negate {operand : Expr} :
    All property (.negate operand) ↔ property (.negate operand) ∧ operand.All property :=
  List.forall_mem_cons

@[simp] theorem all_isNull {operand : Expr} :
    All property (.isNull operand) ↔ property (.isNull operand) ∧ operand.All property :=
  List.forall_mem_cons

@[simp] theorem all_isNotNull {operand : Expr} :
    All property (.isNotNull operand) ↔
      property (.isNotNull operand) ∧ operand.All property :=
  List.forall_mem_cons

@[simp] theorem all_cast {operand : Expr} {target : DataType} {checked : Bool} :
    All property (.cast operand target checked) ↔
      property (.cast operand target checked) ∧ operand.All property :=
  List.forall_mem_cons

@[simp] theorem all_call {name : String} {arguments : List Expr} :
    All property (.call name arguments) ↔
      property (.call name arguments) ∧ ∀ argument ∈ arguments, argument.All property :=
  List.forall_mem_cons.trans (and_congr_right' forall_mem_partsOfAll)

@[simp] theorem all_invocation {function : ResolvedFunction} {arguments : List Expr} :
    All property (.invocation function arguments) ↔
      property (.invocation function arguments) ∧
        ∀ argument ∈ arguments, argument.All property :=
  List.forall_mem_cons.trans (and_congr_right' forall_mem_partsOfAll)

@[simp] theorem all_field {base : Expr} {name : String} :
    All property (.field base name) ↔ property (.field base name) ∧ base.All property :=
  List.forall_mem_cons

/-- A property of all parts holds of the whole. -/
theorem All.self {expr : Expr} (all : expr.All property) : property expr := by
  cases expr <;> simp at all <;> first | exact all | exact all.1

end All

end Expr

end ScalarSql
