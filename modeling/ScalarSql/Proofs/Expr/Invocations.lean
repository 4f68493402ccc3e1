import Mathlib.Data.List.Perm.Basic
import ScalarSql.Proofs.Expr.Calls

/-!
# Invocations and rewriting

`Expr.invocations` lists the invocations in an expression with their arguments.  A rewriting
whose steps neither make nor lose an invocation leaves every one of them where it is, up to
their order, and rewrites its arguments, `Expr.invocations_rewrite`.  Folding only replaces
operators on literals, in which nothing is invoked, and normalizing only changes the order
of two operands, `Expr.invocations_applyRule`.

**Checks.**  An invocation is put together by `Expr.invoke?`, which refuses a number of
arguments that the function does not accept.  `Expr.rewrite?` rewrites with that check at
every invocation.  A rewritten invocation has as many arguments as before, so that no check
fails in an expression in which all invocations are accepted, `Expr.rewrite?_eq_ok`.
-/

set_option autoImplicit false

namespace ScalarSql

/-- An invocation in an expression. -/
structure Invocation where
  /-- The function, with the identity of the call. -/
  function : ResolvedFunction
  arguments : List Expr

namespace Invocation

/-- The invocation with every argument rewritten. -/
def mapArguments (f : Expr → Expr) (invocation : Invocation) : Invocation :=
  { invocation with arguments := invocation.arguments.map f }

/-- The function that is invoked, with the identity of the call, and the number of its
arguments. -/
def shape (invocation : Invocation) : ResolvedFunction × Nat :=
  (invocation.function, invocation.arguments.length)

/-- The signature of the function accepts the number of arguments. -/
def Accepted (invocation : Invocation) : Prop :=
  invocation.function.callable.signature.accepts invocation.arguments.length = true

@[simp] theorem shape_mapArguments (f : Expr → Expr) (invocation : Invocation) :
    (invocation.mapArguments f).shape = invocation.shape := by
  rw [shape, mapArguments, List.length_map, shape]

theorem accepted_mapArguments {f : Expr → Expr} {invocation : Invocation} :
    (invocation.mapArguments f).Accepted ↔ invocation.Accepted := by
  rw [Accepted, mapArguments, List.length_map, Accepted]

theorem mapArguments_mapArguments (f g : Expr → Expr) (invocation : Invocation) :
    (invocation.mapArguments f).mapArguments g = invocation.mapArguments (g ∘ f) := by
  rw [mapArguments, mapArguments, List.map_map, mapArguments]

end Invocation

namespace Expr

/-- The invocation at the root of an expression. -/
def invocation? : Expr → Option Invocation
  | .invocation function arguments => some { function, arguments }
  | _ => none

/-- The invocations in an expression, each before those in its arguments. -/
def invocations (expr : Expr) : List Invocation := expr.parts.filterMap invocation?

theorem mem_invocations {expr : Expr} {invocation : Invocation} :
    invocation ∈ expr.invocations ↔
      .invocation invocation.function invocation.arguments ∈ expr.parts := by
  rw [invocations, List.mem_filterMap]
  constructor
  · rintro ⟨part, isPart, found⟩
    cases part <;> cases found
    exact isPart
  · intro isPart
    exact ⟨_, isPart, rfl⟩

/-- The invocations in an expression are the one at its root and those in its operands. -/
theorem invocations_eq (expr : Expr) :
    expr.invocations = expr.invocation?.toList ++ expr.operands.flatMap invocations := by
  rw [invocations, parts_eq_cons, List.filterMap_cons, List.filterMap_flatMap]
  cases expr.invocation? <;> rfl

theorem invocation?_mapOperands (f : Expr → Expr) (expr : Expr) :
    (expr.mapOperands f).invocation? = expr.invocation?.map (.mapArguments f) := by
  cases expr <;> rfl

/-- Nothing is invoked in an operator on literals. -/
theorem invocations_of_isFoldable {expr : Expr} (foldable : expr.isFoldable = true) :
    expr.invocations = [] := by
  cases expr with
  | binary op left right =>
      simp only [isFoldable, Bool.and_eq_true] at foldable
      obtain ⟨_, rfl⟩ := isLiteral_iff.mp foldable.1
      obtain ⟨_, rfl⟩ := isLiteral_iff.mp foldable.2
      rfl
  | not operand | negate operand | isNull operand | isNotNull operand | cast operand _ _
  | field operand _ =>
      obtain ⟨_, rfl⟩ := isLiteral_iff.mp foldable
      rfl
  | _ => cases foldable

/-! ## Rewriting -/

section Rewriting

variable {step : Expr → Expr}

/-- **A rewriting keeps every invocation** and rewrites its arguments, if no step makes or
loses one. -/
theorem invocations_rewrite
    (keeps : ∀ expr, (step expr).invocations.Perm expr.invocations) (expr : Expr) :
    (expr.rewrite step).invocations.Perm
      (expr.invocations.map (.mapArguments (rewrite step))) := by
  induction expr using inductionOnOperands with
  | step expr ih =>
      have below : ((expr.operands.map (rewrite step)).flatMap invocations).Perm
          ((expr.operands.flatMap invocations).map (.mapArguments (rewrite step))) := by
        rw [List.flatMap_map, List.map_flatMap]
        exact List.Perm.flatMap_left _ ih
      rw [rewrite_eq_step]
      refine (keeps _).trans ?_
      rw [invocations_eq, invocation?_mapOperands, operands_mapOperands, invocations_eq expr,
        List.map_append, Option.toList_map]
      exact below.append_left _

theorem invocations_foldStep (expr : Expr) :
    expr.foldStep.invocations.Perm expr.invocations := by
  rcases foldStep_cases expr with same | ⟨value, literal, foldable, -, -⟩
  · rw [same]
  · rw [literal, invocations_of_isFoldable foldable]
    exact .nil

theorem invocations_normalizeStep (expr : Expr) :
    expr.normalizeStep.invocations.Perm expr.invocations := by
  rcases normalizeStep_cases expr with same | ⟨op, flipped, left, right, -, rfl, moved⟩
  · rw [same]
  · rw [moved, invocations_eq, invocations_eq (.binary op left right)]
    simp only [operands, invocation?, Option.toList_none, List.nil_append, List.flatMap_cons,
      List.flatMap_nil, List.append_nil]
    exact List.perm_append_comm

/-- **Both rules keep every invocation** and rewrite its arguments. -/
theorem invocations_applyRule (rule : RewriteRule) (expr : Expr) :
    (expr.applyRule rule).invocations.Perm
      (expr.invocations.map (.mapArguments (applyRule · rule))) := by
  cases rule with
  | folding => exact invocations_rewrite invocations_foldStep expr
  | normalization => exact invocations_rewrite invocations_normalizeStep expr

end Rewriting

/-! ## Checks -/

/-- The functions that are invoked in the expression accept the numbers of their
arguments. -/
def Accepted (expr : Expr) : Prop := ∀ invocation ∈ expr.invocations, invocation.Accepted

theorem accepted_iff {expr : Expr} : expr.Accepted ↔
    (∀ invocation ∈ expr.invocation?, invocation.Accepted) ∧
      ∀ operand ∈ expr.operands, operand.Accepted := by
  rw [Accepted, invocations_eq, List.forall_mem_append]
  refine and_congr (by simp) ?_
  simp only [List.mem_flatMap, Accepted]
  grind

mutual

/-- Rewrites as `rewrite` does, but puts every invocation together with the check of
`invoke?`. -/
def rewrite? (step : Expr → Expr) : Expr → Except AnalysisError Expr
  | .column name => .ok (step (.column name))
  | .literal value => .ok (step (.literal value))
  | .binary op left right => do
      let left ← left.rewrite? step
      let right ← right.rewrite? step
      .ok (step (.binary op left right))
  | .not operand => do
      let operand ← operand.rewrite? step
      .ok (step (.not operand))
  | .negate operand => do
      let operand ← operand.rewrite? step
      .ok (step (.negate operand))
  | .isNull operand => do
      let operand ← operand.rewrite? step
      .ok (step (.isNull operand))
  | .isNotNull operand => do
      let operand ← operand.rewrite? step
      .ok (step (.isNotNull operand))
  | .cast operand target checked => do
      let operand ← operand.rewrite? step
      .ok (step (.cast operand target checked))
  | .call name arguments => do
      let arguments ← rewriteAll? step arguments
      .ok (step (.call name arguments))
  | .invocation function arguments => do
      let arguments ← rewriteAll? step arguments
      let rebuilt ← invoke? function arguments
      .ok (step rebuilt)
  | .field base name => do
      let base ← base.rewrite? step
      .ok (step (.field base name))

/-- Rewrites each of several expressions with checks. -/
def rewriteAll? (step : Expr → Expr) : List Expr → Except AnalysisError (List Expr)
  | [] => .ok []
  | argument :: rest => do
      let argument ← argument.rewrite? step
      let rest ← rewriteAll? step rest
      .ok (argument :: rest)

end

theorem rewriteAll?_eq_ok {step : Expr → Expr} {arguments : List Expr}
    (each : ∀ argument ∈ arguments, argument.rewrite? step = .ok (argument.rewrite step)) :
    rewriteAll? step arguments = .ok (arguments.map (rewrite step)) := by
  induction arguments with
  | nil => rfl
  | cons first rest ih =>
      obtain ⟨here, later⟩ := List.forall_mem_cons.mp each
      rw [rewriteAll?, here, ih later]
      rfl

/-- **No check fails** while an expression is rewritten whose invocations are accepted. -/
theorem rewrite?_eq_ok {step : Expr → Expr} {expr : Expr} (accepted : expr.Accepted) :
    expr.rewrite? step = .ok (expr.rewrite step) := by
  induction expr using inductionOnOperands with
  | step expr ih =>
      obtain ⟨here, below⟩ := accepted_iff.mp accepted
      have each : ∀ operand ∈ expr.operands,
          operand.rewrite? step = .ok (operand.rewrite step) :=
        fun operand member => ih operand member (below operand member)
      cases expr with
      | column name | literal value => rfl
      | binary op left right =>
          rw [rewrite?, each left (by simp [operands]), each right (by simp [operands]), rewrite]
          rfl
      | not operand | negate operand | isNull operand | isNotNull operand
      | cast operand _ _ | field operand _ =>
          rw [rewrite?, each operand (List.mem_singleton_self operand), rewrite]
          rfl
      | call name arguments =>
          have rewritten : rewriteAll? step arguments = .ok (arguments.map (rewrite step)) :=
            rewriteAll?_eq_ok each
          rw [rewrite?, rewritten, rewrite, rewriteAll_eq_map]
          rfl
      | invocation function arguments =>
          have rewritten : rewriteAll? step arguments = .ok (arguments.map (rewrite step)) :=
            rewriteAll?_eq_ok each
          have accepts : function.callable.signature.accepts
              (arguments.map (rewrite step)).length = true := by
            rw [List.length_map]
            exact here { function, arguments } rfl
          have rebuilt : invoke? function (arguments.map (rewrite step))
              = .ok (.invocation function (arguments.map (rewrite step))) := by
            simp only [invoke?, accepts, if_true]
          rw [rewrite?, rewrite, rewriteAll_eq_map]
          simp only [rewritten, rebuilt, bind, Except.bind]

/-! ## Types -/

/-- Every argument of an invocation in an expression with a type has a type. -/
theorem Typed.of_mem_invocations {schema : Schema} {expr : Expr} (typed : Typed schema expr)
    {invocation : Invocation} (member : invocation ∈ expr.invocations) :
    ∀ argument ∈ invocation.arguments, Typed schema argument := by
  obtain ⟨_, hasType⟩ := typed
  have invocationTyped : Typed schema (.invocation invocation.function invocation.arguments) :=
    hasType.all_typed _ (mem_invocations.mp member)
  exact invocationTyped.arguments

end Expr

end ScalarSql
