import Mathlib.Data.List.Forall2
import ScalarSql.Expr.Evaluation
import ScalarSql.Proofs.Expr.Induction

/-!
# Operands

The operands of an expression are the expressions one level below it, arguments included.
`Expr.mapOperands` replaces all of them under the same root, so that a rewriting is a step
after the rewriting of the operands, `Expr.rewrite_eq_step`, and a proof about it needs no
case for each kind of expression.

**Compositional observations.**  An observation of expressions is compositional if it
depends on the operands only through what is observed of them.  The value on a row, the
type over a schema and the first call that is not resolved are compositional.  What every
step keeps of such an observation the rewriting keeps, `Expr.Compositional.rewrite`.
-/

set_option autoImplicit false

namespace ScalarSql

namespace Expr

/-- The operands of an operator, or the arguments of a call, in order. -/
def operands : Expr → List Expr
  | .column _ | .literal _ => []
  | .binary _ left right => [left, right]
  | .not operand | .negate operand | .isNull operand | .isNotNull operand
  | .cast operand _ _ | .field operand _ => [operand]
  | .call _ arguments | .invocation _ arguments => arguments

/-- The expression with other operands. -/
def mapOperands (f : Expr → Expr) : Expr → Expr
  | .column name => .column name
  | .literal value => .literal value
  | .binary op left right => .binary op (f left) (f right)
  | .not operand => .not (f operand)
  | .negate operand => .negate (f operand)
  | .isNull operand => .isNull (f operand)
  | .isNotNull operand => .isNotNull (f operand)
  | .cast operand target checked => .cast (f operand) target checked
  | .call name arguments => .call name (arguments.map f)
  | .invocation function arguments => .invocation function (arguments.map f)
  | .field base name => .field (f base) name

/-- A property that an expression has if all its operands have it holds of every
expression. -/
theorem inductionOnOperands {motive : Expr → Prop}
    (step : ∀ expr : Expr, (∀ operand ∈ expr.operands, motive operand) → motive expr)
    (expr : Expr) : motive expr := by
  induction expr using inductionOn with
  | column name => exact step _ fun _ member => nomatch member
  | literal value => exact step _ fun _ member => nomatch member
  | binary op left right leftHolds rightHolds =>
      exact step _ (List.forall_mem_cons.mpr ⟨leftHolds, List.forall_mem_singleton.mpr rightHolds⟩)
  | not operand holds | negate operand holds | isNull operand holds | isNotNull operand holds
  | cast operand _ _ holds | field operand _ holds =>
      exact step _ (List.forall_mem_singleton.mpr holds)
  | call name arguments each | invocation function arguments each => exact step _ each

/-- An expression comes first among its parts, and the parts of its operands follow. -/
theorem parts_eq_cons (expr : Expr) : expr.parts = expr :: expr.operands.flatMap parts := by
  cases expr <;> simp [parts, operands, partsOfAll_eq_flatMap]

/-- A property of all parts is one of the expression and of all parts of its operands. -/
theorem all_iff_operands {property : Expr → Prop} {expr : Expr} :
    expr.All property ↔ property expr ∧ ∀ operand ∈ expr.operands, operand.All property := by
  rw [All, parts_eq_cons, List.forall_mem_cons]
  simp only [List.mem_flatMap, All]
  grind

/-- A property of all parts is one of all parts of a part. -/
theorem All.of_mem_parts {property : Expr → Prop} {expr part : Expr} (all : expr.All property)
    (member : part ∈ expr.parts) : part.All property := by
  induction expr using inductionOnOperands with
  | step expr ih =>
      rw [parts_eq_cons] at member
      rcases List.mem_cons.mp member with rfl | below
      · exact all
      · obtain ⟨operand, isOperand, inOperand⟩ := List.mem_flatMap.mp below
        exact ih operand isOperand ((all_iff_operands.mp all).2 operand isOperand) inOperand

/-! ## Rewriting -/

theorem rewriteAll_eq_map (step : Expr → Expr) (arguments : List Expr) :
    rewriteAll step arguments = arguments.map (rewrite step) := by
  induction arguments with
  | nil => rfl
  | cons first rest ih => rw [rewriteAll, ih, List.map_cons]

/-- A rewriting is one step after the rewriting of the operands. -/
theorem rewrite_eq_step (step : Expr → Expr) (expr : Expr) :
    expr.rewrite step = step (expr.mapOperands (rewrite step)) := by
  cases expr <;> simp only [rewrite, mapOperands, rewriteAll_eq_map]

theorem mapOperands_mapOperands (f g : Expr → Expr) (expr : Expr) :
    (expr.mapOperands f).mapOperands g = expr.mapOperands (g ∘ f) := by
  cases expr <;> simp [mapOperands]

theorem mapOperands_congr {f g : Expr → Expr} {expr : Expr}
    (same : ∀ operand ∈ expr.operands, f operand = g operand) :
    expr.mapOperands f = expr.mapOperands g := by
  cases expr with
  | call name arguments | invocation function arguments =>
      exact congrArg _ (List.map_congr_left same)
  | _ => simp_all [operands, mapOperands]

theorem mapOperands_id (expr : Expr) : expr.mapOperands id = expr := by
  cases expr <;> simp [mapOperands]

@[simp] theorem operands_mapOperands (f : Expr → Expr) (expr : Expr) :
    (expr.mapOperands f).operands = expr.operands.map f := by
  cases expr <;> rfl

/-- **Two rewritings commute** if the steps of the first do with the second, whose own steps
look at the root only. -/
theorem rewrite_rewrite {step mark : Expr → Expr}
    (root : ∀ (f : Expr → Expr) (expr : Expr),
      (mark expr).mapOperands f = mark (expr.mapOperands f))
    (commutes : ∀ expr : Expr, (step expr).rewrite mark = step (expr.rewrite mark))
    (expr : Expr) : (expr.rewrite step).rewrite mark = (expr.rewrite mark).rewrite step := by
  induction expr using inductionOnOperands with
  | step expr ih =>
      have operands : expr.mapOperands (rewrite mark ∘ rewrite step)
          = expr.mapOperands (rewrite step ∘ rewrite mark) := mapOperands_congr ih
      calc (expr.rewrite step).rewrite mark
          = step ((expr.mapOperands (rewrite step)).rewrite mark) := by
            rw [rewrite_eq_step step, commutes]
        _ = step (mark (expr.mapOperands (rewrite mark ∘ rewrite step))) := by
            rw [rewrite_eq_step mark, mapOperands_mapOperands]
        _ = step ((expr.rewrite mark).mapOperands (rewrite step)) := by
            rw [operands, rewrite_eq_step mark, root, mapOperands_mapOperands]
        _ = (expr.rewrite mark).rewrite step := (rewrite_eq_step step _).symm

/-! ## Observations -/

/-- What is observed of an expression depends on its operands only through what is
observed of them. -/
def Compositional {α : Type} (observe : Expr → α) : Prop :=
  ∀ (f : Expr → Expr) (expr : Expr),
    (∀ operand ∈ expr.operands, observe (f operand) = observe operand) →
      observe (expr.mapOperands f) = observe expr

theorem compositional_dataType (schema : Schema) : Compositional (dataType schema) := by
  intro f expr same
  cases expr with
  | binary op left right =>
      simp only [mapOperands, dataType, same left (by simp [operands]),
        same right (by simp [operands])]
  | negate operand | field operand _ =>
      simp only [mapOperands, dataType, same operand (by simp [operands])]
  | _ => rfl

theorem unresolvedCallIn?_map {f : Expr → Expr} {arguments : List Expr}
    (same : ∀ argument ∈ arguments, (f argument).unresolvedCall? = argument.unresolvedCall?) :
    unresolvedCallIn? (arguments.map f) = unresolvedCallIn? arguments := by
  induction arguments with
  | nil => rfl
  | cons first rest ih =>
      obtain ⟨here, later⟩ := List.forall_mem_cons.mp same
      rw [List.map_cons, unresolvedCallIn?, unresolvedCallIn?, here, ih later]

theorem compositional_unresolvedCall? : Compositional unresolvedCall? := by
  intro f expr same
  cases expr with
  | binary op left right =>
      simp only [mapOperands, unresolvedCall?, same left (by simp [operands]),
        same right (by simp [operands])]
  | not operand | negate operand | isNull operand | isNotNull operand | cast operand _ _
  | field operand _ => exact same operand (by simp [operands])
  | invocation function arguments => exact unresolvedCallIn?_map same
  | _ => rfl

/-- Several expressions have a value each. -/
theorem evaluateAll_eq_ok {context : RowContext} {exprs : List Expr}
    {values : List Value} :
    evaluateAll context exprs = .ok values ↔
      List.Forall₂ (fun expr value => expr.evaluate context = .ok value) exprs values := by
  induction exprs generalizing values with
  | nil =>
      rw [List.forall₂_nil_left_iff, evaluateAll, Except.ok.injEq, eq_comm]
  | cons first rest ih =>
      rw [List.forall₂_cons_left_iff]
      constructor
      · intro evaluated
        simp only [evaluateAll] at evaluated
        split at evaluated
        · cases evaluated
        · next value here =>
            split at evaluated
            · cases evaluated
            · next others later =>
                cases evaluated
                exact ⟨value, others, here, ih.mp later, rfl⟩
      · rintro ⟨value, others, here, later, rfl⟩
        simp only [evaluateAll, here, ih.mpr later]

theorem length_of_evaluateAll {context : RowContext} {exprs : List Expr}
    {values : List Value} (evaluated : evaluateAll context exprs = .ok values) :
    values.length = exprs.length :=
  (evaluateAll_eq_ok.mp evaluated).length_eq.symm

/-- The value at a position is that of the expression there. -/
theorem evaluate_at {context : RowContext} {exprs : List Expr} {values : List Value}
    (evaluated : evaluateAll context exprs = .ok values) {position : Nat} {expr : Expr}
    (atPosition : exprs[position]? = some expr) :
    ∃ value, values[position]? = some value ∧ expr.evaluate context = .ok value := by
  have pairs := evaluateAll_eq_ok.mp evaluated
  clear evaluated
  induction pairs generalizing position with
  | nil => cases atPosition
  | cons here _ ih =>
      cases position with
      | zero =>
          cases atPosition
          exact ⟨_, rfl, here⟩
      | succ position => exact ih atPosition

theorem evaluateAll_map {context : RowContext} {f : Expr → Expr} {arguments : List Expr}
    (same : ∀ argument ∈ arguments, (f argument).evaluate context = argument.evaluate context) :
    evaluateAll context (arguments.map f) = evaluateAll context arguments := by
  induction arguments with
  | nil => rfl
  | cons first rest ih =>
      obtain ⟨here, later⟩ := List.forall_mem_cons.mp same
      rw [List.map_cons, evaluateAll, evaluateAll, here, ih later]

theorem compositional_evaluate (context : RowContext) : Compositional (evaluate context) := by
  intro f expr same
  cases expr with
  | binary op left right =>
      simp only [mapOperands, evaluate, same left (by simp [operands]),
        same right (by simp [operands])]
  | not operand | negate operand | isNull operand | isNotNull operand | cast operand _ _
  | field operand _ =>
      simp only [mapOperands, evaluate, same operand (by simp [operands])]
  | invocation function arguments =>
      have values : evaluateAll context (arguments.map f) = evaluateAll context arguments :=
        evaluateAll_map same
      simp only [mapOperands, evaluate, values]
  | _ => rfl

namespace Compositional

variable {α : Type} {observe : Expr → α} {step : Expr → Expr}

/-- A rewriting keeps an observation of an expression if each step keeps it where it is
taken, which is after the operands have been rewritten without changing it. -/
theorem rewrite_of_all (compositional : Compositional observe) {good : Expr → Prop}
    (keeps : ∀ expr : Expr, good expr →
      (∀ operand ∈ expr.operands, observe (operand.rewrite step) = observe operand) →
        observe (step (expr.mapOperands (Expr.rewrite step)))
          = observe (expr.mapOperands (Expr.rewrite step)))
    {expr : Expr} (all : expr.All good) : observe (expr.rewrite step) = observe expr := by
  induction expr using inductionOnOperands with
  | step expr ih =>
      obtain ⟨here, below⟩ := all_iff_operands.mp all
      have same : ∀ operand ∈ expr.operands, observe (operand.rewrite step) = observe operand :=
        fun operand member => ih operand member (below operand member)
      rw [rewrite_eq_step, keeps expr here same, compositional _ _ same]

/-- **What every step keeps, the rewriting keeps.** -/
theorem rewrite (compositional : Compositional observe)
    (keeps : ∀ expr, observe (step expr) = observe expr) (expr : Expr) :
    observe (expr.rewrite step) = observe expr := by
  have everywhere : expr.All fun _ => True := fun _ _ => trivial
  exact compositional.rewrite_of_all (fun _ _ _ => keeps _) everywhere

end Compositional

end Expr

end ScalarSql
