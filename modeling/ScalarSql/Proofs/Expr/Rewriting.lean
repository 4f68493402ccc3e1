import ScalarSql.Plan.Rewrite
import ScalarSql.Proofs.Expr.Columns
import ScalarSql.Proofs.Expr.Operands
import ScalarSql.Proofs.Expr.Typing

/-!
# Folding and normalizing expressions

Both rewriting rules apply a step to every part of an expression, from the leaves to the
root.  What such a step keeps, the whole rewriting keeps: the type, `Expr.HasType.rewrite`,
and the columns, `Expr.columnNames_rewrite_subset`.

**Folding.**  An operator on literals has the same value and the same type wherever it
stands, so that folding changes neither on any row, `Expr.evaluate_fold`.  An operator that
fails stays where it is, and so does its error.

**Fixed parts.**  A part is fixed by a step if the step does not change it, and an
expression all of whose parts are fixed is not changed by the rewriting.  After folding
all parts are fixed by folding, after normalizing by normalizing, and normalizing keeps
what folding has fixed.  So a folded and normalized expression is rewritten no further,
`Expr.fold_normalize_fold`.
-/

set_option autoImplicit false

namespace ScalarSql

/-- The wider of two types does not depend on their order. -/
theorem Arithmetic.resultType?_comm (left right : DataType) :
    resultType? left right = resultType? right left := by
  cases left <;> cases right <;> rfl

theorem Comparison.comparable_comm (left right : DataType) :
    comparable left right = comparable right left := by
  cases left <;> cases right <;>
    simp [comparable, DataType.isNumeric, Bool.and_comm, BEq.comm]

namespace Expr

variable {step : Expr → Expr} {schema : Schema}

/-! ## Rewriting in general -/

/-- A rewriting that changes no part changes nothing. -/
theorem rewrite_eq_self {expr : Expr} (fixed : expr.All fun part => step part = part) :
    expr.rewrite step = expr := by
  induction expr using inductionOnOperands with
  | step expr ih =>
      obtain ⟨here, below⟩ := all_iff_operands.mp fixed
      have same : ∀ operand ∈ expr.operands, operand.rewrite step = id operand :=
        fun operand member => ih operand member (below operand member)
      rw [rewrite_eq_step, mapOperands_congr same, mapOperands_id, here]

/-- A property of all parts that every step establishes at the root holds after
rewriting. -/
theorem rewrite_all {property : Expr → Prop}
    (establishes : ∀ expr : Expr, (∀ operand ∈ expr.operands, operand.All property) →
      (step expr).All property)
    (expr : Expr) : (expr.rewrite step).All property := by
  induction expr using inductionOnOperands with
  | step expr ih =>
      rw [rewrite_eq_step]
      refine establishes _ ?_
      rw [operands_mapOperands, List.forall_mem_map]
      exact ih

/-- A property of all parts that rewriting keeps and that no step takes from the operands
still holds of all parts after rewriting. -/
theorem rewrite_all_of_all {property : Expr → Prop}
    (root : ∀ expr : Expr, property expr → property (expr.rewrite step))
    (below : ∀ expr : Expr, (∀ operand ∈ expr.operands, operand.All property) →
      ∀ operand ∈ (step expr).operands, operand.All property)
    {expr : Expr} (all : expr.All property) : (expr.rewrite step).All property := by
  induction expr using inductionOnOperands with
  | step expr ih =>
      refine all_iff_operands.mpr ⟨root expr all.self, ?_⟩
      rw [rewrite_eq_step]
      refine below _ ?_
      rw [operands_mapOperands, List.forall_mem_map]
      exact fun operand member => ih operand member ((all_iff_operands.mp all).2 operand member)

/-- A step that keeps types makes a rewriting that does. -/
theorem HasType.rewrite {expr : Expr} {type : DataType} (typed : HasType schema expr type)
    (keeps : ∀ {expr : Expr} {type : DataType}, HasType schema expr type →
      HasType schema (step expr) type) :
    HasType schema (expr.rewrite step) type := by
  induction typed with
  | column declared => exact keeps (.column declared)
  | literal value => exact keeps (.literal value)
  | binary _ _ result left right => exact keeps (.binary left right result)
  | not _ accepted operand => exact keeps (.not operand accepted)
  | negate _ numeric operand => exact keeps (.negate operand numeric)
  | isNull _ operand => exact keeps (.isNull operand)
  | isNotNull _ operand => exact keeps (.isNotNull operand)
  | cast _ allowed operand => exact keeps (.cast operand allowed)
  | @invocation function arguments types _ each =>
      refine keeps (typed_invocation function ?_)
      rw [rewriteAll_eq_map, List.forall_mem_map]
      exact fun argument member => ⟨_, each argument member⟩
  | field _ declared base => exact keeps (.field base declared)

/-- The columns of an expression are its own and those of its operands. -/
theorem columnNames_eq (expr : Expr) :
    expr.columnNames = expr.columnName?.toList ++ expr.operands.flatMap columnNames := by
  cases expr <;> simp [operands, columnName?]

theorem columnName?_mapOperands (f : Expr → Expr) (expr : Expr) :
    (expr.mapOperands f).columnName? = expr.columnName? := by
  cases expr <;> rfl

/-- A step that adds no column makes a rewriting that adds none. -/
theorem columnNames_rewrite_subset
    (adds : ∀ expr : Expr, (step expr).columnNames ⊆ expr.columnNames) (expr : Expr) :
    (expr.rewrite step).columnNames ⊆ expr.columnNames := by
  induction expr using inductionOnOperands with
  | step expr ih =>
      have operandsSubset : (expr.operands.map (rewrite step)).flatMap columnNames
          ⊆ expr.operands.flatMap columnNames := by
        intro name member
        rw [List.flatMap_map] at member
        obtain ⟨operand, isOperand, inOperand⟩ := List.mem_flatMap.mp member
        exact List.mem_flatMap.mpr ⟨operand, isOperand, ih operand isOperand inOperand⟩
      rw [rewrite_eq_step]
      refine List.Subset.trans (adds _) ?_
      rw [columnNames_eq expr, columnNames_eq, columnName?_mapOperands, operands_mapOperands]
      exact List.append_subset.mpr ⟨List.subset_append_left _ _,
        List.Subset.trans operandsSubset (List.subset_append_right _ _)⟩

/-! ## Folding -/

theorem isLiteral_iff {expr : Expr} : expr.isLiteral = true ↔ ∃ value, expr = .literal value := by
  cases expr <;> simp [isLiteral]

/-- An operator on literals is the same wherever it stands: its type does not depend on the
columns nor its outcome on the row, and it has no call in it. -/
theorem constant_of_isFoldable {expr : Expr} (foldable : expr.isFoldable = true) :
    (∀ schema, expr.dataType {} = expr.dataType schema) ∧
      (∀ context, expr.evaluateConstant = expr.evaluate context) ∧
      expr.unresolvedCall? = none := by
  cases expr with
  | binary op left right =>
      simp only [isFoldable, Bool.and_eq_true] at foldable
      obtain ⟨_, rfl⟩ := isLiteral_iff.mp foldable.1
      obtain ⟨_, rfl⟩ := isLiteral_iff.mp foldable.2
      exact ⟨fun _ => rfl, fun _ => rfl, rfl⟩
  | not operand | negate operand | isNull operand | isNotNull operand | cast operand _ _
  | field operand _ =>
      obtain ⟨_, rfl⟩ := isLiteral_iff.mp foldable
      exact ⟨fun _ => rfl, fun _ => rfl, rfl⟩
  | _ => cases foldable

/-- A folded value is the value of an operator on literals and shows its type. -/
theorem foldedValue?_eq_some {expr : Expr} {value : Value}
    (folded : expr.foldedValue? = some value) :
    expr.isFoldable = true ∧ (∀ context, expr.evaluate context = .ok value) ∧
      ∀ schema, expr.dataType schema = .ok value.ownType := by
  unfold foldedValue? at folded
  split at folded
  · next foldable =>
      split at folded
      · next evaluated computed =>
          split at folded
          · next shows =>
              cases folded
              obtain ⟨sameType, sameOutcome, -⟩ := constant_of_isFoldable foldable
              refine ⟨foldable, fun context => ?_, fun schema => ?_⟩
              · rw [← sameOutcome context, evaluated]
              · rw [← sameType schema, computed, eq_of_beq shows]
          · cases folded
      · cases folded
  · cases folded

/-- A step of folding gives the literal of a value that the expression has on every row, or
changes nothing. -/
theorem foldStep_cases (expr : Expr) : expr.foldStep = expr ∨
    ∃ value, expr.foldStep = .literal value ∧ expr.isFoldable = true ∧
      (∀ context, expr.evaluate context = .ok value) ∧
      ∀ schema, expr.dataType schema = .ok value.ownType := by
  unfold foldStep
  split
  · next folded => exact .inr ⟨_, rfl, foldedValue?_eq_some folded⟩
  · exact .inl rfl

/-- A step of folding changes neither the value nor an error on any row. -/
theorem evaluate_foldStep (context : RowContext) (expr : Expr) :
    expr.foldStep.evaluate context = expr.evaluate context := by
  rcases foldStep_cases expr with same | ⟨value, literal, -, evaluated, -⟩
  · rw [same]
  · rw [literal, evaluated context, evaluate]

theorem dataType_foldStep (schema : Schema) (expr : Expr) :
    expr.foldStep.dataType schema = expr.dataType schema := by
  rcases foldStep_cases expr with same | ⟨value, literal, -, -, computed⟩
  · rw [same]
  · rw [literal, computed schema, dataType]

theorem unresolvedCall?_foldStep (expr : Expr) :
    expr.foldStep.unresolvedCall? = expr.unresolvedCall? := by
  rcases foldStep_cases expr with same | ⟨value, literal, foldable, -, -⟩
  · rw [same]
  · rw [literal, (constant_of_isFoldable foldable).2.2, unresolvedCall?]

/-- **Folding changes no value and no error**, whether or not the expression has a type. -/
theorem evaluate_fold (context : RowContext) (expr : Expr) :
    expr.fold.evaluate context = expr.evaluate context :=
  (compositional_evaluate context).rewrite (evaluate_foldStep context) expr

theorem dataType_fold (schema : Schema) (expr : Expr) :
    expr.fold.dataType schema = expr.dataType schema :=
  (compositional_dataType schema).rewrite (dataType_foldStep schema) expr

theorem unresolvedCall?_fold (expr : Expr) : expr.fold.unresolvedCall? = expr.unresolvedCall? :=
  compositional_unresolvedCall?.rewrite unresolvedCall?_foldStep expr

/-- **Folding keeps types.** -/
theorem HasType.foldStep {expr : Expr} {type : DataType} (typed : HasType schema expr type) :
    HasType schema expr.foldStep type := by
  rcases foldStep_cases expr with same | ⟨value, literal, -, -, computed⟩
  · rwa [same]
  · obtain rfl := typed.unique (computed schema)
    rw [literal]
    exact .literal value

theorem HasType.fold {expr : Expr} {type : DataType} (typed : HasType schema expr type) :
    HasType schema expr.fold type :=
  typed.rewrite HasType.foldStep

theorem foldStep_of_not_isFoldable {expr : Expr} (unfoldable : expr.isFoldable = false) :
    expr.foldStep = expr := by
  simp [foldStep, foldedValue?, unfoldable]

theorem columnNames_fold_subset (expr : Expr) : expr.fold.columnNames ⊆ expr.columnNames := by
  refine columnNames_rewrite_subset (fun expr => ?_) expr
  rcases foldStep_cases expr with same | ⟨value, literal, -, -, -⟩
  · rw [same]
    exact List.Subset.refl _
  · rw [literal]
    exact List.nil_subset _

/-- The part is not changed by folding. -/
def Folded (expr : Expr) : Prop := expr.foldStep = expr

/-- After folding all parts are folded. -/
theorem fold_all_folded (expr : Expr) : expr.fold.All Folded := by
  refine rewrite_all (fun expr operands => ?_) expr
  rcases foldStep_cases expr with same | ⟨value, literal, -, -, -⟩
  · rw [same]
    exact all_iff_operands.mpr ⟨same, operands⟩
  · rw [literal]
    exact all_literal.mpr (foldStep_of_not_isFoldable rfl)

/-! ## Normalizing -/

/-- The literal on the left of an operator moves to the right, and another operand takes its
place under the flipped operator. -/
structure Moves (op flipped : Operator) (left right : Expr) : Prop where
  flips : op.flip? = some flipped
  binds : op.isLogical = false
  literal : left.isLiteral = true
  other : right.isLiteral = false

theorem Moves.normalizeStep {op flipped : Operator} {left right : Expr}
    (moves : Moves op flipped left right) :
    Expr.normalizeStep (.binary op left right) = .binary flipped right left := by
  simp [Expr.normalizeStep, moves.flips, moves.binds, moves.literal, moves.other]

/-- A literal moves to the right of an operator, or nothing changes. -/
theorem normalizeStep_cases (expr : Expr) : expr.normalizeStep = expr ∨
    ∃ op flipped left right, Moves op flipped left right ∧ expr = .binary op left right ∧
      expr.normalizeStep = .binary flipped right left := by
  unfold normalizeStep
  split
  · next op left right =>
      split
      · next movable =>
          simp only [Bool.and_eq_true, Bool.not_eq_true'] at movable
          obtain ⟨⟨literal, other⟩, binds⟩ := movable
          split
          · next flipped flips =>
              exact .inr ⟨op, flipped, left, right, ⟨flips, binds, literal, other⟩, rfl, rfl⟩
          · exact .inl rfl
      · exact .inl rfl
  · exact .inl rfl

/-- Operands that change places under the flipped operator have the same result type. -/
theorem resultType_flip? {op flipped : Operator} (found : op.flip? = some flipped)
    {left right type : DataType} (result : op.resultType left right = .ok type) :
    flipped.resultType right left = .ok type := by
  cases op with
  | arithmetic op =>
      have same : flipped = .arithmetic op := by
        cases op <;> cases found <;> rfl
      simp only [same, Operator.resultType, Arithmetic.resultType?_comm right left] at result ⊢
      split at result <;> first | exact result | cases result
  | comparison op =>
      cases found
      simp only [Operator.resultType, Comparison.comparable_comm right left] at result ⊢
      split at result
      · next comparable => rwa [if_pos comparable]
      · cases result
  | logical op =>
      cases found
      simp only [Operator.resultType, Bool.and_comm (Connective.accepts right)] at result ⊢
      split at result
      · next accepted => rwa [if_pos accepted]
      · cases result

/-- **Normalizing keeps types.** -/
theorem HasType.normalizeStep {expr : Expr} {type : DataType}
    (typed : HasType schema expr type) : HasType schema expr.normalizeStep type := by
  rcases normalizeStep_cases expr with same | ⟨op, flipped, left, right, moves, rfl, moved⟩
  · rwa [same]
  · rw [moved]
    cases typed with
    | binary leftTyped rightTyped result =>
        exact .binary rightTyped leftTyped (resultType_flip? moves.flips result)

theorem HasType.normalize {expr : Expr} {type : DataType}
    (typed : HasType schema expr type) : HasType schema expr.normalize type :=
  typed.rewrite HasType.normalizeStep

theorem columnNames_normalize_subset (expr : Expr) :
    expr.normalize.columnNames ⊆ expr.columnNames := by
  refine columnNames_rewrite_subset (fun expr => ?_) expr
  rcases normalizeStep_cases expr with same | ⟨op, flipped, left, right, -, rfl, moved⟩
  · rw [same]
    exact List.Subset.refl _
  · rw [moved, columnNames_binary, columnNames_binary]
    intro name member
    simpa [or_comm] using member

/-- After normalizing all parts are normalized. -/
theorem normalize_all_normalized (expr : Expr) :
    expr.normalize.All fun part => part.normalizeStep = part := by
  refine rewrite_all (fun expr operands => ?_) expr
  rcases normalizeStep_cases expr with same |
    ⟨op, flipped, left, right, moves, rfl, moved⟩
  · rw [same]
    exact all_iff_operands.mpr ⟨same, operands⟩
  · have inLeft : left.All _ := operands left (by simp [Expr.operands])
    have inRight : right.All _ := operands right (by simp [Expr.operands])
    rw [moved]
    exact all_binary.mpr ⟨by simp [normalizeStep, moves.other], inRight, inLeft⟩

/-! ## Normalizing what is folded -/

theorem isLiteral_normalizeStep (expr : Expr) :
    expr.normalizeStep.isLiteral = expr.isLiteral := by
  rcases normalizeStep_cases expr with same | ⟨_, _, _, _, -, rfl, moved⟩
  · rw [same]
  · rw [moved]
    rfl

theorem isLiteral_normalize (expr : Expr) : expr.normalize.isLiteral = expr.isLiteral := by
  unfold normalize
  cases expr <;> exact (isLiteral_normalizeStep _).trans rfl

/-- Only a literal is normalized to a literal. -/
theorem normalize_eq_literal {expr : Expr} {value : Value} :
    expr.normalize = .literal value ↔ expr = .literal value := by
  constructor
  · intro normalized
    have literal := isLiteral_normalize expr
    rw [normalized] at literal
    obtain ⟨_, rfl⟩ := isLiteral_iff.mp literal.symm
    exact normalized
  · rintro rfl
    rfl

theorem isFoldable_normalizeStep (expr : Expr) :
    expr.normalizeStep.isFoldable = expr.isFoldable := by
  rcases normalizeStep_cases expr with same | ⟨_, _, left, right, -, rfl, moved⟩
  · rw [same]
  · rw [moved]
    exact Bool.and_comm _ _

theorem isFoldable_normalize (expr : Expr) : expr.normalize.isFoldable = expr.isFoldable := by
  unfold normalize
  cases expr with
  | column _ | literal _ | call _ _ | invocation _ _ => exact isFoldable_normalizeStep _
  | binary op left right =>
      have operands : (left.normalize.isLiteral && right.normalize.isLiteral)
          = (left.isLiteral && right.isLiteral) := by
        rw [isLiteral_normalize, isLiteral_normalize]
      exact (isFoldable_normalizeStep _).trans operands
  | not operand | negate operand | isNull operand | isNotNull operand | cast operand _ _
  | field operand _ =>
      exact (isFoldable_normalizeStep _).trans (isLiteral_normalize operand)

/-- An operator on literals is normalized. -/
theorem normalize_of_isFoldable {expr : Expr} (foldable : expr.isFoldable = true) :
    expr.normalize = expr := by
  cases expr with
  | binary op left right =>
      simp only [isFoldable, Bool.and_eq_true] at foldable
      obtain ⟨_, rfl⟩ := isLiteral_iff.mp foldable.1
      obtain ⟨_, rfl⟩ := isLiteral_iff.mp foldable.2
      rfl
  | not operand | negate operand | isNull operand | isNotNull operand | cast operand _ _
  | field operand _ =>
      obtain ⟨_, rfl⟩ := isLiteral_iff.mp foldable
      rfl
  | _ => cases foldable

theorem Folded.normalize {expr : Expr} (folded : expr.Folded) : expr.normalize.Folded := by
  cases foldable : expr.isFoldable with
  | true => rwa [normalize_of_isFoldable foldable]
  | false => exact foldStep_of_not_isFoldable ((isFoldable_normalize expr).trans foldable)

/-- A step of normalization only changes the order of operands. -/
theorem mem_operands_normalizeStep {expr operand : Expr} :
    operand ∈ expr.normalizeStep.operands ↔ operand ∈ expr.operands := by
  rcases normalizeStep_cases expr with same | ⟨_, _, left, right, -, rfl, moved⟩
  · rw [same]
  · rw [moved]
    simp only [operands, List.mem_cons, List.not_mem_nil, or_false]
    exact or_comm

/-- Normalizing keeps what holds of all parts if it keeps it at the root. -/
theorem normalize_all_of_all {property : Expr → Prop}
    (root : ∀ expr : Expr, property expr → property expr.normalize) {expr : Expr}
    (all : expr.All property) : expr.normalize.All property :=
  rewrite_all_of_all root (fun _ operands operand member =>
    operands operand (mem_operands_normalizeStep.mp member)) all

/-- Normalizing keeps parts folded. -/
theorem normalize_all_folded {expr : Expr} (folded : expr.All Folded) :
    expr.normalize.All Folded :=
  normalize_all_of_all (fun _ part => part.normalize) folded

/-! ## One pass is enough -/

theorem normalize_normalize (expr : Expr) : expr.normalize.normalize = expr.normalize :=
  rewrite_eq_self (normalize_all_normalized expr)

/-- **A folded and normalized expression is rewritten no further.** -/
theorem fold_normalize_fold (expr : Expr) : expr.fold.normalize.fold = expr.fold.normalize :=
  rewrite_eq_self (normalize_all_folded (fold_all_folded expr))

/-! ## Rules -/

/-- What a rule does to an expression of a plan. -/
def applyRule (expr : Expr) : RewriteRule → Expr
  | .folding => expr.fold
  | .normalization => expr.normalize

/-- What rules do to an expression of a plan, one after the other. -/
def applyRules (rules : List RewriteRule) (expr : Expr) : Expr :=
  rules.foldl applyRule expr

end Expr

/-- The rules rewrite the columns of a projection one by one. -/
theorem Plan.applyRules_project (rules : List RewriteRule) (items : List NamedExpr)
    (input : Plan) : (Plan.project items input).applyRules rules
      = .project (items.map fun item => { item with expr := item.expr.applyRules rules })
          (input.applyRules rules) := by
  induction rules generalizing items input with
  | nil => simp [Plan.applyRules, Expr.applyRules]
  | cons rule rest ih =>
      have first : (Plan.project items input).applyRule rule
          = .project (items.map fun item => { item with expr := item.expr.applyRule rule })
              (input.applyRule rule) := by
        cases rule <;> rfl
      have later := ih (items.map fun item => { item with expr := item.expr.applyRule rule })
        (input.applyRule rule)
      rw [← first, List.map_map] at later
      exact later

end ScalarSql
