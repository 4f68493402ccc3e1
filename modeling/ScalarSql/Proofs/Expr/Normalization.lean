import ScalarSql.Proofs.Expr.Rewriting
import ScalarSql.Proofs.Value.Exchange

/-!
# Values of normalized expressions

Normalization moves a literal from the left of an operator to the right.  Both operands are
still evaluated, the literal cannot fail, and the flipped operator gives the same outcome,
so that the expression keeps its value and its errors on every row.

**Swapped zeros.**  The exception is a sum of two zeros that differ as decimals, which is
its right operand: `0.00 + d` is `0.0` on a row where `d` is `0.0`, and the normalized
`d + 0.00` is `0.00`.  `Expr.swapsZeros` finds such a sum on a row.  One step changes the
value of an expression exactly then, `Expr.evaluate_normalizeStep_iff`, and an expression
without such a part keeps its value, `Expr.HasType.evaluate_normalize`.
-/

set_option autoImplicit false

namespace ScalarSql

namespace Expr

variable {context : RowContext}

/-- Whether the expression is a sum with a literal that moves, and the literal and the other
operand are zeros apart on the row. -/
def swapsZeros (context : RowContext) : Expr → Bool
  | .binary (.arithmetic .add) (.literal front) other =>
      match other.isLiteral, other.evaluate context with
      | false, .ok value => front.zerosApart value
      | _, _ => false
  | _ => false

theorem swapsZeros_eq_true {expr : Expr} :
    expr.swapsZeros context = true ↔ ∃ front other value,
      expr = .binary (.arithmetic .add) (.literal front) other ∧ other.isLiteral = false ∧
        other.evaluate context = .ok value ∧ front.zerosApart value = true := by
  constructor
  · intro swaps
    unfold swapsZeros at swaps
    split at swaps
    · next front other =>
        split at swaps
        · next value literal evaluated =>
            exact ⟨front, other, value, rfl, literal, evaluated, swaps⟩
        · cases swaps
    · cases swaps
  · rintro ⟨front, other, value, rfl, literal, evaluated, apart⟩
    simp only [swapsZeros, literal, evaluated, apart]

theorem swapsZeros_binary {op : Operator} {front : Value} {other : Expr}
    (literal : other.isLiteral = false) :
    swapsZeros context (.binary op (.literal front) other) = true ↔
      op = .arithmetic .add ∧
        ∃ value, other.evaluate context = .ok value ∧ front.zerosApart value = true := by
  rw [swapsZeros_eq_true]
  constructor
  · rintro ⟨_, _, value, same, -, evaluated, apart⟩
    cases same
    exact ⟨rfl, value, evaluated, apart⟩
  · rintro ⟨rfl, value, evaluated, apart⟩
    exact ⟨front, other, value, rfl, literal, evaluated, apart⟩

/-- A literal on the left of an arithmetic operator is a number or `NULL`. -/
def NumericLeft : Expr → Prop
  | .binary (.arithmetic _) (.literal front) _ =>
      front.number?.isSome = true ∨ front.isNull = true
  | _ => True

/-! ## One step -/

theorem shortcut?_of_not_isLogical {op : Operator} (binds : op.isLogical = false)
    (value : Value) : shortcut? op value = none := by
  cases op <;> first | rfl | cases binds

/-- The flipped operator does not decide on one operand either. -/
theorem isLogical_of_flip? {op flipped : Operator} (flips : op.flip? = some flipped)
    (binds : op.isLogical = false) : flipped.isLogical = false := by
  cases op with
  | arithmetic op => cases op <;> cases flips <;> rfl
  | comparison op =>
      cases flips
      rfl
  | logical op => cases binds

/-- A sum with a literal on the left only is changed by a step. -/
theorem normalizeStep_ne_of_swapsZeros {expr : Expr} (swaps : expr.swapsZeros context = true) :
    expr.normalizeStep ≠ expr := by
  obtain ⟨front, other, value, rfl, literal, -, -⟩ := swapsZeros_eq_true.mp swaps
  have moves : Moves (.arithmetic .add) (.arithmetic .add) (.literal front) other :=
    ⟨rfl, rfl, rfl, literal⟩
  rw [moves.normalizeStep]
  intro same
  injection same with _ left _
  rw [left] at literal
  cases literal

/-- **One step** of normalization changes what an expression gives on a row exactly if it
swaps zeros there. -/
theorem evaluate_normalizeStep_iff {expr : Expr} (numeric : expr.NumericLeft) :
    expr.normalizeStep.evaluate context = expr.evaluate context ↔
      expr.swapsZeros context = false := by
  rcases normalizeStep_cases expr with same | ⟨op, flipped, left, right, moves, rfl, moved⟩
  · have noSwap : expr.swapsZeros context = false := by
      rw [← Bool.not_eq_true]
      exact fun swaps => normalizeStep_ne_of_swapsZeros swaps same
    simp [same, noSwap]
  · obtain ⟨front, rfl⟩ := isLiteral_iff.mp moves.literal
    have flippedBinds := isLogical_of_flip? moves.flips moves.binds
    rw [moved]
    simp only [evaluate, shortcut?_of_not_isLogical moves.binds,
      shortcut?_of_not_isLogical flippedBinds]
    rw [← Bool.not_eq_true (swapsZeros _ _), swapsZeros_binary moves.other]
    cases evaluated : right.evaluate context with
    | error error => simp
    | ok value =>
        have numericFront : op.isArithmetic = true →
            front.number?.isSome = true ∨ front.isNull = true := by
          intro arithmetic
          cases op with
          | arithmetic op => exact numeric
          | _ => cases arithmetic
        refine (Operator.apply_flip?_iff moves.flips moves.binds numericFront).trans ?_
        simp

/-! ## The whole expression -/

theorem number?_of_ownType {value : Value}
    (numeric : value.ownType = .unresolved ∨ value.ownType.isNumeric = true) :
    value.number?.isSome = true ∨ value.isNull = true := by
  cases value <;> simp_all [Value.ownType, DataType.isNumeric, Value.number?, Value.isNull]

theorem Typed.numericLeft {schema : Schema} {expr : Expr} (typed : Typed schema expr) :
    expr.NumericLeft := by
  unfold NumericLeft
  split
  · obtain ⟨_, typed⟩ := typed
    cases typed with
    | binary leftTyped rightTyped result =>
        cases leftTyped
        simp only [Operator.resultType] at result
        split at result
        · next found => exact number?_of_ownType (Arithmetic.numeric_of_resultType? found).1
        · cases result
  · trivial

/-- Normalizing the operands puts no other literal on the left. -/
theorem NumericLeft.mapOperands_normalize {expr : Expr} (numeric : expr.NumericLeft) :
    (expr.mapOperands normalize).NumericLeft := by
  unfold NumericLeft
  split
  · next op front other same =>
      cases expr with
      | binary op left right =>
          injection same with sameOp sameLeft _
          rw [normalize_eq_literal] at sameLeft
          subst sameOp sameLeft
          exact numeric
      | _ => cases same
  · trivial

/-- Normalizing the operands makes no part swap zeros that did not. -/
theorem swapsZeros_mapOperands_normalize {expr : Expr}
    (same : ∀ operand ∈ expr.operands,
      operand.normalize.evaluate context = operand.evaluate context)
    (noSwap : expr.swapsZeros context = false) :
    (expr.mapOperands normalize).swapsZeros context = false := by
  rw [← Bool.not_eq_true, swapsZeros_eq_true] at noSwap ⊢
  rintro ⟨front, other, value, mapped, literal, evaluated, apart⟩
  cases expr with
  | binary op left right =>
      injection mapped with sameOp sameLeft sameRight
      rw [normalize_eq_literal] at sameLeft
      subst sameOp sameLeft sameRight
      rw [isLiteral_normalize] at literal
      rw [same right (by simp [operands])] at evaluated
      exact noSwap ⟨front, right, value, rfl, literal, evaluated, apart⟩
  | _ => cases mapped

/-- **Normalizing a typed expression** keeps its value or its error on every row where no
part of it swaps zeros. -/
theorem HasType.evaluate_normalize {schema : Schema} {expr : Expr} {type : DataType}
    (typed : HasType schema expr type)
    (apart : expr.All fun part => part.swapsZeros context = false) :
    expr.normalize.evaluate context = expr.evaluate context := by
  have good : expr.All fun part => part.NumericLeft ∧ part.swapsZeros context = false :=
    fun part member => ⟨(typed.all_typed part member).numericLeft, apart part member⟩
  refine (compositional_evaluate context).rewrite_of_all (fun expr ⟨numeric, noSwap⟩ same => ?_)
    good
  exact (evaluate_normalizeStep_iff numeric.mapOperands_normalize).mpr
    (swapsZeros_mapOperands_normalize same noSwap)

end Expr

end ScalarSql
