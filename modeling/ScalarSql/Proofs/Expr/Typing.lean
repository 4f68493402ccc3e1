import Mathlib.Data.List.Forall2
import Mathlib.Tactic.Choose
import ScalarSql.Expr.Evaluation
import ScalarSql.Proofs.Expr.Induction
import ScalarSql.Proofs.Value.Typing

/-!
# Typed expressions and their values

`Expr.HasType` is a typing relation for resolved expressions over the rows of a schema.
Its rules are those that analysis checks: a column has its declared type, an operator the
result type for its operands, a cast its target, an invocation the declared return type,
a field the type found in the structure.  Calls by name have no rule.

**Types.**  The relation determines the computed type, `Expr.HasType.dataType`; it says
more, since `Expr.dataType` does not look at every part of an expression.

**Values.**  `Expr.HasType.evaluate_sound` is type preservation of the evaluator: over a
row that fits the schema a typed expression gives a value of its type or fails because of
the data.
-/

set_option autoImplicit false

namespace ScalarSql

/-- What a relation carries over from one item to the other it carries over from one list
to the other. -/
theorem forall_mem_of_forall₂ {α β : Type} {related : α → β → Prop} {good : α → Prop}
    {better : β → Prop} {lefts : List α} {rights : List β}
    (pairs : List.Forall₂ related lefts rights) (all : ∀ left ∈ lefts, good left)
    (carries : ∀ left right, related left right → good left → better right) :
    ∀ right ∈ rights, better right := by
  induction pairs with
  | nil => exact fun _ member => nomatch member
  | cons first _ ih =>
      obtain ⟨here, later⟩ := List.forall_mem_cons.mp all
      exact List.forall_mem_cons.mpr ⟨carries _ _ first here, ih later⟩

/-- What a relation of two lists says about a position. -/
theorem getElem?_of_forall₂ {α β : Type} {related : α → β → Prop} {lefts : List α}
    {rights : List β} (pairs : List.Forall₂ related lefts rights) {position : Nat} {left : α}
    (here : lefts[position]? = some left) :
    ∃ right, rights[position]? = some right ∧ related left right := by
  induction pairs generalizing position with
  | nil => cases here
  | @cons _ right _ _ first _ ih =>
      cases position with
      | zero =>
          cases here
          exact ⟨right, rfl, first⟩
      | succ position => exact ih here

/-! ## Rows and columns -/

/-- A row with one value for each column, each of the declared type. -/
def Row.Fits (columns : List Column) (row : Row) : Prop :=
  List.Forall₂ (fun value column => value.hasType column.type = true) row columns

/-- A row of `NULL`s fits all columns. -/
theorem Row.fits_null (columns : List Column) :
    Row.Fits columns (columns.map fun _ => .null) :=
  List.forall₂_map_left_iff.mpr
    (List.forall₂_same.mpr fun column _ => Value.hasType_null column.type)

namespace Schema

/-- The column of a name stands at the position of the name. -/
theorem column?_eq_some_iff {schema : Schema} {name : String} {found : Column} :
    schema.column? name = some found ↔
      ∃ index, schema.indexOf? name = some index ∧ schema.columns[index]? = some found := by
  simp only [column?, indexOf?, List.find?_eq_bind_findIdx?_getElem?, Option.bind_eq_some_iff]

theorem exists_column?_of_indexOf? {schema : Schema} {name : String} {index : Nat}
    (position : schema.indexOf? name = some index) :
    ∃ found, schema.column? name = some found := by
  obtain ⟨bound, -, -⟩ := List.findIdx?_eq_some_iff_getElem.mp position
  exact ⟨schema.columns[index],
    column?_eq_some_iff.mpr ⟨index, position, List.getElem?_eq_getElem bound⟩⟩

end Schema

/-- The type of a declared field. -/
theorem DataType.fieldType_eq_ok {fields : List (String × DataType)} {name : String}
    {found : String × DataType} (declared : findNamed? name fields = some found) :
    (DataType.struct fields).fieldType name = .ok found.2 := by
  simp [fieldType, field?, fields?, declared]

namespace Expr

/-- The value of a column of a row that fits is there and has the declared type. -/
theorem evaluateColumn_fits {context : RowContext} {name : String} {found : Column}
    (declared : context.schema.column? name = some found)
    (fits : Row.Fits context.schema.columns context.row) :
    ∃ value, evaluateColumn context name = .ok value ∧ value.hasType found.type = true := by
  obtain ⟨index, position, atIndex⟩ := Schema.column?_eq_some_iff.mp declared
  obtain ⟨bound, rfl⟩ := List.getElem?_eq_some_iff.mp atIndex
  have inRow : index < context.row.length := fits.length_eq ▸ bound
  refine ⟨context.row[index], ?_, fits.get inRow bound⟩
  simp only [evaluateColumn, position, List.getElem?_eq_getElem inRow]

/-! ## The typing relation -/

/-- The resolved expressions over rows of a schema, with their types. -/
inductive HasType (schema : Schema) : Expr → DataType → Prop
  | column {name : String} {found : Column} (declared : schema.column? name = some found) :
      HasType schema (.column name) found.type
  | literal (value : Value) : HasType schema (.literal value) value.ownType
  | binary {op : Operator} {left right : Expr} {leftType rightType type : DataType}
      (leftTyped : HasType schema left leftType) (rightTyped : HasType schema right rightType)
      (result : op.resultType leftType rightType = .ok type) :
      HasType schema (.binary op left right) type
  | not {operand : Expr} {type : DataType} (typed : HasType schema operand type)
      (accepted : Connective.accepts type = true) : HasType schema (.not operand) .boolean
  | negate {operand : Expr} {type : DataType} (typed : HasType schema operand type)
      (numeric : type.isNumeric = true ∨ type = .unresolved) :
      HasType schema (.negate operand) type
  | isNull {operand : Expr} {type : DataType} (typed : HasType schema operand type) :
      HasType schema (.isNull operand) .boolean
  | isNotNull {operand : Expr} {type : DataType} (typed : HasType schema operand type) :
      HasType schema (.isNotNull operand) .boolean
  | cast {operand : Expr} {source target : DataType} {checked : Bool}
      (typed : HasType schema operand source) (allowed : source.castable target = true) :
      HasType schema (.cast operand target checked) target
  | invocation {function : ResolvedFunction} {arguments : List Expr}
      (types : Expr → DataType)
      (typed : ∀ argument ∈ arguments, HasType schema argument (types argument)) :
      HasType schema (.invocation function arguments) function.callable.signature.returnType
  | field {base : Expr} {name : String} {fields : List (String × DataType)}
      {found : String × DataType} (typed : HasType schema base (.struct fields))
      (declared : DataType.findNamed? name fields = some found) :
      HasType schema (.field base name) found.2

/-- The expression has some type. -/
def Typed (schema : Schema) (expr : Expr) : Prop := ∃ type, HasType schema expr type

theorem typed_invocation {schema : Schema} (function : ResolvedFunction)
    {arguments : List Expr} (typed : ∀ argument ∈ arguments, Typed schema argument) :
    HasType schema (.invocation function arguments)
      function.callable.signature.returnType := by
  choose! types hasTypes using typed
  exact .invocation types hasTypes

/-- The type of a typed expression is the computed one. -/
theorem HasType.dataType {schema : Schema} {expr : Expr} {type : DataType}
    (typed : HasType schema expr type) : expr.dataType schema = .ok type := by
  induction typed with
  | column declared => simp only [Expr.dataType, declared]
  | literal value => rfl
  | binary _ _ result leftType rightType =>
      simp only [Expr.dataType, leftType, rightType, result]
      rfl
  | not _ _ _ => rfl
  | negate _ _ type => exact type
  | isNull _ _ => rfl
  | isNotNull _ _ => rfl
  | cast _ _ _ => rfl
  | invocation _ _ _ => rfl
  | field _ declared type =>
      simp only [Expr.dataType, type, DataType.fieldType_eq_ok declared]
      rfl

theorem HasType.unique {schema : Schema} {expr : Expr} {type other : DataType}
    (typed : HasType schema expr type) (computed : expr.dataType schema = .ok other) :
    type = other :=
  Except.ok.inj (typed.dataType.symm.trans computed)

/-- All parts of a typed expression are typed. -/
theorem HasType.all_typed {schema : Schema} {expr : Expr} {type : DataType}
    (typed : HasType schema expr type) : expr.All (Typed schema) := by
  induction typed with
  | column declared => exact all_column.mpr ⟨_, .column declared⟩
  | literal value => exact all_literal.mpr ⟨_, .literal value⟩
  | binary leftTyped rightTyped result left right =>
      exact all_binary.mpr ⟨⟨_, .binary leftTyped rightTyped result⟩, left, right⟩
  | not typed accepted operand => exact all_not.mpr ⟨⟨_, .not typed accepted⟩, operand⟩
  | negate typed numeric operand => exact all_negate.mpr ⟨⟨_, .negate typed numeric⟩, operand⟩
  | isNull typed operand => exact all_isNull.mpr ⟨⟨_, .isNull typed⟩, operand⟩
  | isNotNull typed operand => exact all_isNotNull.mpr ⟨⟨_, .isNotNull typed⟩, operand⟩
  | cast typed allowed operand => exact all_cast.mpr ⟨⟨_, .cast typed allowed⟩, operand⟩
  | invocation types typed each =>
      exact all_invocation.mpr ⟨⟨_, .invocation types typed⟩, each⟩
  | field typed declared base => exact all_field.mpr ⟨⟨_, .field typed declared⟩, base⟩

/-- Typed expressions have no call by name left. -/
theorem HasType.unresolvedCall?_eq_none {schema : Schema} {expr : Expr} {type : DataType}
    (typed : HasType schema expr type) : expr.unresolvedCall? = none := by
  induction typed with
  | column _ => rfl
  | literal _ => rfl
  | binary _ _ _ left right => simp only [unresolvedCall?, left, right, Option.or_none]
  | not _ _ operand => exact operand
  | negate _ _ operand => exact operand
  | isNull _ operand => exact operand
  | isNotNull _ operand => exact operand
  | cast _ _ operand => exact operand
  | @invocation function arguments types _ each =>
      simp only [unresolvedCall?]
      induction arguments with
      | nil => rfl
      | cons first rest ih =>
          simp only [unresolvedCallIn?, each first (by simp), Option.none_or]
          exact ih (fun argument member => by simp_all) (fun argument member => by simp_all)
  | field _ _ base => exact base

/-! ## Type preservation -/

/-- What evaluation relies on beyond types: a literal belongs to the type it shows, which
leaves out arrays of mixed items, and an invocation is of a function that the library
checks the results of. -/
def Regular : Expr → Prop
  | .literal value => value.hasType value.ownType = true
  | .invocation function _ => ∃ body, function.callable = .scalar body
  | _ => True

end Expr

/-- A checked function gives a value of its return type or fails as a function does. -/
theorem ScalarFunction.invoke_sound (function : ScalarFunction) (arguments : List Value) :
    Sound (Value.hasType · function.signature.returnType) (function.invoke arguments) := by
  unfold invoke
  split
  · trivial
  · split
    · exact Value.hasType_null _
    · split
      · trivial
      · trivial
      · trivial
      · split
        · next typed => exact typed
        · trivial

/-- Neither policy changes the type of a result. -/
theorem FailurePolicy.settle_sound (policy : FailurePolicy) (index : Nat)
    {outcome : Except Error Value} {type : DataType}
    (sound : Sound (Value.hasType · type) outcome) :
    Sound (Value.hasType · type) (policy.settle index outcome) := by
  unfold settle
  split
  · split
    · next row _ _ => cases row <;> trivial
    · exact Value.hasType_null type
  · exact sound

namespace Expr

/-- The negation of a truth value is one. -/
theorem evaluateNot_sound {value : Value} {type : DataType}
    (accepted : Connective.accepts type = true) (typed : value.hasType type = true) :
    Sound (Value.hasType · .boolean) (evaluateNot value) := by
  cases type <;> cases accepted <;> cases value <;> first | rfl | cases typed

/-- A connective that its left operand decides still gives a truth value. -/
theorem shortcut?_hasType {op : Operator} {left value : Value}
    {leftType rightType type : DataType} (result : op.resultType leftType rightType = .ok type)
    (decided : shortcut? op left = some value) : value.hasType type = true := by
  cases op with
  | logical link =>
      cases left <;> simp only [shortcut?] at decided <;> try cases decided
      split at decided
      · cases decided
        simp only [Operator.resultType] at result
        split at result
        · cases result
          rfl
        · cases result
      · cases decided
  | _ => cases decided

/-- Arguments give values if each of them does or one fails because of the data. -/
theorem evaluateAll_sound {context : RowContext} {arguments : List Expr}
    {types : Expr → DataType}
    (each : ∀ argument ∈ arguments,
      Sound (Value.hasType · (types argument)) (argument.evaluate context)) :
    Sound (fun values => List.Forall₂ (fun value argument =>
      value.hasType (types argument) = true) values arguments)
      (evaluateAll context arguments) := by
  induction arguments with
  | nil => exact .nil
  | cons first rest ih =>
      have head := each first (by simp)
      have tail := ih fun argument member => each argument (by simp [member])
      simp only [evaluateAll]
      cases value : first.evaluate context with
      | error error =>
          rw [value] at head
          exact head
      | ok value' =>
          rw [value] at head
          cases values : evaluateAll context rest with
          | error error =>
              rw [values] at tail
              exact tail
          | ok values' =>
              rw [values] at tail
              exact .cons head tail

/-- **Evaluation preserves types.**  Over a row that fits the schema, a typed expression
gives a value of its type or fails because of the data. -/
theorem HasType.evaluate_sound {context : RowContext} {expr : Expr} {type : DataType}
    (typed : HasType context.schema expr type) (regular : expr.All Regular)
    (fits : Row.Fits context.schema.columns context.row) :
    Sound (Value.hasType · type) (expr.evaluate context) := by
  induction typed with
  | column declared =>
      obtain ⟨value, evaluated, valueTyped⟩ := evaluateColumn_fits declared fits
      simp only [evaluate, evaluated]
      exact valueTyped
  | literal value => exact regular.self
  | @binary op left right _ _ _ _ _ result leftSound rightSound =>
      simp only [all_binary] at regular
      have first := leftSound regular.2.1
      have second := rightSound regular.2.2
      simp only [evaluate]
      cases leftValue : left.evaluate context with
      | error error =>
          rw [leftValue] at first
          exact first
      | ok value =>
          rw [leftValue] at first
          dsimp only
          split
          · next decided => exact shortcut?_hasType result decided
          · cases rightValue : right.evaluate context with
            | error error =>
                rw [rightValue] at second
                exact second
            | ok other =>
                rw [rightValue] at second
                exact op.apply_sound result first second
  | @not operand _ _ accepted operandSound =>
      simp only [all_not] at regular
      have sound := operandSound regular.2
      simp only [evaluate]
      cases value : operand.evaluate context with
      | error error => rwa [value] at sound
      | ok result =>
          rw [value] at sound
          exact evaluateNot_sound accepted sound
  | @negate operand _ _ numeric operandSound =>
      simp only [all_negate] at regular
      have sound := operandSound regular.2
      simp only [evaluate]
      cases value : operand.evaluate context with
      | error error => rwa [value] at sound
      | ok result =>
          rw [value] at sound
          exact Value.negate_sound numeric sound
  | @isNull operand _ _ operandSound =>
      simp only [all_isNull] at regular
      have sound := operandSound regular.2
      simp only [evaluate]
      cases value : operand.evaluate context with
      | error error => rwa [value] at sound
      | ok result => rfl
  | @isNotNull operand _ _ operandSound =>
      simp only [all_isNotNull] at regular
      have sound := operandSound regular.2
      simp only [evaluate]
      cases value : operand.evaluate context with
      | error error => rwa [value] at sound
      | ok result => rfl
  | @cast operand _ target checked _ allowed operandSound =>
      simp only [all_cast] at regular
      have sound := operandSound regular.2
      simp only [evaluate]
      cases value : operand.evaluate context with
      | error error => rwa [value] at sound
      | ok result =>
          rw [value] at sound
          exact Value.castTo_sound checked allowed sound
  | @invocation function arguments types _ each =>
      simp only [all_invocation] at regular
      have values := evaluateAll_sound fun argument member =>
        each argument member (regular.2 argument member)
      obtain ⟨body, scalar⟩ := regular.1
      simp only [evaluate]
      cases evaluated : evaluateAll context arguments with
      | error error => rwa [evaluated] at values
      | ok results =>
          refine FailurePolicy.settle_sound _ _ ?_
          rw [scalar]
          exact body.invoke_sound results
  | @field base name _ _ _ declared baseSound =>
      simp only [all_field] at regular
      have sound := baseSound regular.2
      simp only [evaluate]
      cases value : base.evaluate context with
      | error error => rwa [value] at sound
      | ok result =>
          rw [value] at sound
          exact Value.field?_hasType sound declared

end Expr

end ScalarSql
