import ScalarSql.Aggregate.Basic

/-!
# Plans

A plan is a chain of operators over one table, or over a single row without columns when
there is no table.  Column references in an operator mean the columns that its input
produces.  `Plan.exprs` lists the expressions of a plan from the outermost operator
inwards, and `Plan.mapExprs` rewrites all of them.
-/

set_option autoImplicit false

namespace ScalarSql

/-- An expression under the name of a column. -/
structure NamedExpr where
  expr : Expr
  name : String

/-- A key of a sort. -/
structure SortKey where
  expr : Expr
  ascending : Bool
  nullsFirst : Bool

/-- A query as operators. -/
inductive Plan where
  /-- One row without columns. -/
  | oneRow
  | scan (table : String) (aliasName : Option String)
  /-- The rows for which the predicate is true. -/
  | filter (predicate : Expr) (input : Plan)
  /-- Computed columns; before analysis no columns stand for all columns of the input. -/
  | project (columns : List NamedExpr) (input : Plan)
  /-- One row for each group: its keys and then its aggregates. -/
  | aggregate (keys : List NamedExpr) (aggregates : List Aggregate) (input : Plan)
  | sort (keys : List SortKey) (input : Plan)
  /-- At most `count` rows after the first `offset` ones. -/
  | limit (count offset : Nat) (input : Plan)

namespace Plan

instance : Inhabited Plan := ⟨.oneRow⟩

/-- The number of rows that stands for no limit. -/
def unlimited : Nat := twoPow 64 - 1

/-- Whether the outermost operator groups rows. -/
def isAggregate : Plan → Bool
  | .aggregate .. => true
  | _ => false

/-- The expressions of the outermost operator. -/
def ownExprs : Plan → List Expr
  | .filter predicate _ => [predicate]
  | .project columns _ => columns.map NamedExpr.expr
  | .aggregate keys aggregates _ => keys.map NamedExpr.expr ++ aggregates.map Aggregate.expr
  | .sort keys _ => keys.map SortKey.expr
  | .oneRow | .scan .. | .limit .. => []

/-- All expressions of a plan, those of the outermost operator first. -/
def exprs : Plan → List Expr
  | .oneRow => []
  | .scan _ _ => []
  | .filter predicate input => ownExprs (.filter predicate input) ++ input.exprs
  | .project columns input => ownExprs (.project columns input) ++ input.exprs
  | .aggregate keys aggregates input =>
      ownExprs (.aggregate keys aggregates input) ++ input.exprs
  | .sort keys input => ownExprs (.sort keys input) ++ input.exprs
  | .limit _ _ input => input.exprs

/-- The plan with every expression rewritten. -/
def mapExprs (f : Expr → Expr) : Plan → Plan
  | .oneRow => .oneRow
  | .scan table aliasName => .scan table aliasName
  | .filter predicate input => .filter (f predicate) (input.mapExprs f)
  | .project columns input =>
      .project (columns.map fun column => { column with expr := f column.expr })
        (input.mapExprs f)
  | .aggregate keys aggregates input =>
      .aggregate (keys.map fun key => { key with expr := f key.expr })
        (aggregates.map fun aggregate => { aggregate with expr := f aggregate.expr })
        (input.mapExprs f)
  | .sort keys input =>
      .sort (keys.map fun key => { key with expr := f key.expr }) (input.mapExprs f)
  | .limit count offset input => .limit count offset (input.mapExprs f)

/-- The name of the first call that is not resolved, searched in the order of
`Plan.exprs`. -/
def unresolvedCall? (plan : Plan) : Option String :=
  plan.exprs.findSome? Expr.unresolvedCall?

/-! ## Equality -/

/-- Whether two lists are of the same length and agree item by item. -/
def sameLists {α : Type} (sameItem : α → α → Bool) : List α → List α → Bool
  | [], [] => true
  | left :: lefts, right :: rights => sameItem left right && sameLists sameItem lefts rights
  | _, _ => false

/-- Whether two named expressions are interchangeable. -/
def sameNamed (left right : NamedExpr) : Bool :=
  Expr.same left.expr right.expr && left.name == right.name

/-- Whether two aggregate columns are interchangeable. -/
def sameAggregate (left right : Aggregate) : Bool :=
  left.function == right.function && Expr.same left.expr right.expr && left.name == right.name

/-- Whether two sort keys are interchangeable. -/
def sameKey (left right : SortKey) : Bool :=
  Expr.same left.expr right.expr && left.ascending == right.ascending
    && left.nullsFirst == right.nullsFirst

/-- Whether two plans are interchangeable: the same operators over interchangeable
expressions. -/
def same : Plan → Plan → Bool
  | .oneRow, .oneRow => true
  | .scan leftTable leftAlias, .scan rightTable rightAlias =>
      leftTable == rightTable && leftAlias == rightAlias
  | .filter left leftInput, .filter right rightInput =>
      Expr.same left right && same leftInput rightInput
  | .project left leftInput, .project right rightInput =>
      sameLists sameNamed left right && same leftInput rightInput
  | .aggregate leftKeys left leftInput, .aggregate rightKeys right rightInput =>
      sameLists sameNamed leftKeys rightKeys && sameLists sameAggregate left right
        && same leftInput rightInput
  | .sort left leftInput, .sort right rightInput =>
      sameLists sameKey left right && same leftInput rightInput
  | .limit leftCount leftOffset leftInput, .limit rightCount rightOffset rightInput =>
      leftCount == rightCount && leftOffset == rightOffset && same leftInput rightInput
  | _, _ => false

end Plan

end ScalarSql
