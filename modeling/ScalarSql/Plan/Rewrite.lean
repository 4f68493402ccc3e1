import ScalarSql.Expr.Evaluation
import ScalarSql.Plan.Basic

/-!
# Rewriting plans

Two rules rewrite the expressions of an analysed plan.  **Folding** replaces an operator
on literals by its value, if it has one and the value shows the type of the expression,
and drops filters whose predicate is then literally true.  **Normalization** moves a
literal operand to the right.  Neither looks into a call: arguments are rewritten, the
function and its identity stay.
-/

set_option autoImplicit false

namespace ScalarSql

namespace Expr

/-! ## Folding -/

/-- Whether the expression is an operator whose operands are all literals. -/
def isFoldable : Expr → Bool
  | .binary _ left right => left.isLiteral && right.isLiteral
  | .not operand | .negate operand | .isNull operand | .isNotNull operand
  | .cast operand _ _ | .field operand _ => operand.isLiteral
  | .column _ | .literal _ | .call _ _ | .invocation _ _ => false

/-- The value of an operator on literals, if it shows the type of the expression. -/
def foldedValue? (expr : Expr) : Option Value :=
  if expr.isFoldable then
    match expr.evaluateConstant, expr.dataType {} with
    | .ok value, .ok type => if value.ownType == type then some value else none
    | _, _ => none
  else none

/-- Replaces an operator on literals by its value. -/
def foldStep (expr : Expr) : Expr :=
  match expr.foldedValue? with
  | some value => .literal value
  | none => expr

/-- The expression with all operators on literals replaced by their values. -/
def fold : Expr → Expr := rewrite foldStep

/-! ## Normalization -/

/-- Moves a literal on the left of an operator to the right, where the operator has a
flipped form; the logical connectives keep the order in which they are evaluated. -/
def normalizeStep : Expr → Expr
  | .binary op left right =>
      if left.isLiteral && !right.isLiteral && !op.isLogical then
        match op.flip? with
        | some flipped => .binary flipped right left
        | none => .binary op left right
      else .binary op left right
  | other => other

/-- The expression with literals on the right. -/
def normalize : Expr → Expr := rewrite normalizeStep

end Expr

/-- A rule that rewrites plans. -/
inductive RewriteRule where
  | folding
  | normalization
  deriving DecidableEq

namespace RewriteRule

/-- The name of the rule. -/
def name : RewriteRule → String
  | .folding => "ConstantFolding"
  | .normalization => "ExpressionNormalization"

/-- The rules in the order in which they are applied. -/
def defaults : List RewriteRule := [.folding, .normalization]

end RewriteRule

namespace Plan

/-- The plan without filters whose predicate is literally true. -/
def dropTrueFilters : Plan → Plan
  | .oneRow => .oneRow
  | .scan table aliasName => .scan table aliasName
  | .filter predicate input =>
      match predicate with
      | .literal (.boolean true) => input.dropTrueFilters
      | other => .filter other input.dropTrueFilters
  | .project columns input => .project columns input.dropTrueFilters
  | .aggregate keys aggregates input => .aggregate keys aggregates input.dropTrueFilters
  | .sort keys input => .sort keys input.dropTrueFilters
  | .limit count offset input => .limit count offset input.dropTrueFilters

/-- The plan after one rule. -/
def applyRule (plan : Plan) : RewriteRule → Plan
  | .folding => (plan.mapExprs Expr.fold).dropTrueFilters
  | .normalization => plan.mapExprs Expr.normalize

/-- The plan after the given rules, one after the other. -/
def applyRules (rules : List RewriteRule) (plan : Plan) : Plan :=
  rules.foldl applyRule plan

/-- The plan after one pass over all rules. -/
def optimize (plan : Plan) : Plan := plan.applyRules RewriteRule.defaults

end Plan

end ScalarSql
