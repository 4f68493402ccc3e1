import ScalarSql.Proofs.Plan.Select

/-!
# Queries without their marks of distinctness

A select clause may say that equal rows appear once, and a call that equal arguments count once.
`withoutDistinct` takes these marks out of a query, wherever they stand, and leaves everything
else as it is.

**Nothing reads the marks.**  A term writes the same expression with its marks and without them,
`Expr.ofTerm_withoutDistinct`.  So a query has the same plan, or is rejected with the same error,
`Plan.ofQuery_withoutDistinct`.
-/

set_option autoImplicit false

namespace ScalarSql

namespace Syntax

/-! ## Taking the marks out -/

/-- The marks of a call that takes its arguments as they come. -/
def CallMarks.withoutDistinct (marks : CallMarks) : CallMarks :=
  if marks.distinct then { marks with distinct := false, before := "(" } else marks

namespace Term

mutual

/-- The term with calls that take their arguments as they come. -/
def withoutDistinct : Term → Term
  | .identifier name => .identifier name
  | .path first rest => .path first rest
  | .literal value => .literal value
  | .binary left sign right => .binary left.withoutDistinct sign right.withoutDistinct
  | .not operand => .not operand.withoutDistinct
  | .plus operand => .plus operand.withoutDistinct
  | .minus operand => .minus operand.withoutDistinct
  | .factorial operand => .factorial operand.withoutDistinct
  | .isNull operand => .isNull operand.withoutDistinct
  | .isNotNull operand => .isNotNull operand.withoutDistinct
  | .cast form operand target format => .cast form operand.withoutDistinct target format
  | .call function marks arguments =>
      .call function marks.withoutDistinct (withoutDistinctAll arguments)
  | .queryCall spelling => .queryCall spelling
  | .nested inner => .nested inner.withoutDistinct
  | .subquery spelling => .subquery spelling
  | .star => .star
  | .labelled spelling => .labelled spelling
  | .other spelling => .other spelling

/-- Several terms with calls that take their arguments as they come. -/
def withoutDistinctAll : List Term → List Term
  | [] => []
  | first :: rest => first.withoutDistinct :: withoutDistinctAll rest

end

end Term

/-- The item without marks in its term. -/
def SelectItem.withoutDistinct : SelectItem → SelectItem
  | .bare term => .bare term.withoutDistinct
  | .aliased term aliasName => .aliased term.withoutDistinct aliasName
  | .star spelling => .star spelling
  | .other spelling => .other spelling

/-- The sort key without marks in its term. -/
def OrderItem.withoutDistinct (item : OrderItem) : OrderItem :=
  { item with term := item.term.withoutDistinct }

/-- The group clause without marks in its keys. -/
def GroupClause.withoutDistinct : GroupClause → GroupClause
  | .terms keys => .terms (keys.map Term.withoutDistinct)
  | .all => .all

/-- The select clause that has all of its rows, without marks in its terms. -/
def Select.withoutDistinct (select : Select) : Select where
  distinct := false
  items := select.items.map SelectItem.withoutDistinct
  sources := select.sources
  condition := select.condition.map Term.withoutDistinct
  grouping := select.grouping.withoutDistinct
  having := select.having.map Term.withoutDistinct

/-- The body of a query without marks. -/
def QueryBody.withoutDistinct : QueryBody → QueryBody
  | .select clause => .select clause.withoutDistinct
  | .other => .other

/-- The query without marks. -/
def Query.withoutDistinct (query : Query) : Query :=
  { query with
    body := query.body.withoutDistinct
    order := query.order.map OrderItem.withoutDistinct
    limit := query.limit.map Term.withoutDistinct
    offset := query.offset.map Term.withoutDistinct }

end Syntax

/-! ## Terms -/

namespace Expr

mutual

/-- **A term writes the same expression** with its marks and without them. -/
theorem ofTerm_withoutDistinct (scope : NameScope) : ∀ term : Syntax.Term,
    ofTerm scope term.withoutDistinct = ofTerm scope term
  | .identifier _ | .path _ _ | .literal _ | .queryCall _ | .subquery _ | .star | .labelled _
  | .other _ => rfl
  | .binary left sign right => by
      simp only [Syntax.Term.withoutDistinct, ofTerm, ofTerm_withoutDistinct scope left,
        ofTerm_withoutDistinct scope right]
  | .not operand | .plus operand | .minus operand | .factorial operand | .isNull operand
  | .isNotNull operand | .cast _ operand _ _ | .nested operand => by
      simp only [Syntax.Term.withoutDistinct, ofTerm, ofTerm_withoutDistinct scope operand]
  | .call function marks arguments => by
      simp only [Syntax.Term.withoutDistinct, ofTerm, ofTerms_withoutDistinct scope arguments]

theorem ofTerms_withoutDistinct (scope : NameScope) : ∀ terms : List Syntax.Term,
    ofTerms scope (Syntax.Term.withoutDistinctAll terms) = ofTerms scope terms
  | [] => rfl
  | first :: rest => by
      simp only [Syntax.Term.withoutDistinctAll, ofTerms, ofTerm_withoutDistinct scope first,
        ofTerms_withoutDistinct scope rest]

end

end Expr

/-! ## Clauses -/

namespace Plan

theorem namedTerm_withoutDistinct (scope : NameScope) (term : Syntax.Term) :
    namedTerm scope term.withoutDistinct = namedTerm scope term := by
  rw [namedTerm, namedTerm, Expr.ofTerm_withoutDistinct]

theorem optionalExpr_withoutDistinct (scope : NameScope) (term : Option Syntax.Term) :
    optionalExpr scope (term.map Syntax.Term.withoutDistinct) = optionalExpr scope term := by
  cases term with
  | none => rfl
  | some term => rw [Option.map_some, optionalExpr, optionalExpr, Expr.ofTerm_withoutDistinct]

theorem defineAliases_withoutDistinct (scope : NameScope) (items : List Syntax.SelectItem) :
    defineAliases scope (items.map Syntax.SelectItem.withoutDistinct)
      = defineAliases scope items := by
  induction items generalizing scope with
  | nil => rfl
  | cons item rest ih =>
      cases item with
      | aliased term aliasName =>
          simp only [List.map_cons, Syntax.SelectItem.withoutDistinct, defineAliases,
            Expr.ofTerm_withoutDistinct, ih]
      | bare term | star spelling | other spelling => exact ih scope

theorem groupKeys_withoutDistinct (scope : NameScope) (grouping : Syntax.GroupClause) :
    groupKeys scope grouping.withoutDistinct = groupKeys scope grouping := by
  cases grouping with
  | all => rfl
  | terms keys =>
      rw [Syntax.GroupClause.withoutDistinct, groupKeys, groupKeys, List.mapM_map]
      refine congrArg keys.mapM ?_
      funext term
      exact namedTerm_withoutDistinct scope term

theorem selectedColumn_withoutDistinct (scope : NameScope) (item : Syntax.SelectItem) :
    selectedColumn scope item.withoutDistinct = selectedColumn scope item := by
  cases item with
  | bare term => exact namedTerm_withoutDistinct scope term
  | aliased term aliasName =>
      simp only [Syntax.SelectItem.withoutDistinct, selectedColumn, Expr.ofTerm_withoutDistinct]
  | star spelling | other spelling => rfl

theorem selectedColumns_withoutDistinct (scope : NameScope) (items : List Syntax.SelectItem) :
    selectedColumns scope (items.map Syntax.SelectItem.withoutDistinct)
      = selectedColumns scope items := by
  have listed : (items.map Syntax.SelectItem.withoutDistinct).mapM (selectedColumn scope)
      = items.mapM (selectedColumn scope) := by
    rw [List.mapM_map]
    refine congrArg items.mapM ?_
    funext item
    exact selectedColumn_withoutDistinct scope item
  rcases items with _ | ⟨item, _ | ⟨second, rest⟩⟩
  · rfl
  · cases item with
    | star spelling => rfl
    | bare term | aliased term aliasName | other spelling => exact listed
  · rw [selectedColumns, selectedColumns]
    · exact listed
    · intro spelling alone
      cases (List.cons.inj alone).2
    · intro spelling alone
      cases (List.cons.inj alone).2

theorem sortExpr_withoutDistinct (scope : NameScope) (term : Syntax.Term) :
    sortExpr scope term.withoutDistinct = sortExpr scope term := by
  cases term with
  | identifier name => rfl
  | _ => exact Expr.ofTerm_withoutDistinct scope _

theorem sortKeys_withoutDistinct (scope : NameScope) (columns hidden : List NamedExpr)
    (order : List Syntax.OrderItem) :
    sortKeys scope columns hidden (order.map Syntax.OrderItem.withoutDistinct)
      = sortKeys scope columns hidden order := by
  induction order generalizing hidden with
  | nil => rfl
  | cons item rest ih =>
      have key : sortKey scope columns item.withoutDistinct = sortKey scope columns item := by
        simp only [sortKey, Syntax.OrderItem.withoutDistinct, sortExpr_withoutDistinct]
      simp only [List.map_cons, sortKeys, key, ih]

/-- The parts of a select clause are the same with its marks and without them. -/
theorem readSelect_withoutDistinct (tableColumns : String → List String) (select : Syntax.Select)
    (order : List Syntax.OrderItem) :
    readSelect tableColumns select.withoutDistinct (order.map Syntax.OrderItem.withoutDistinct)
      = readSelect tableColumns select order := by
  simp only [readSelect, Syntax.Select.withoutDistinct, defineAliases_withoutDistinct,
    optionalExpr_withoutDistinct, groupKeys_withoutDistinct, selectedColumns_withoutDistinct,
    sortKeys_withoutDistinct]

/-! ## Queries -/

theorem rowCount_withoutDistinct (term : Syntax.Term) :
    rowCount term.withoutDistinct = rowCount term := by
  cases term <;> rfl

theorem limitBy_withoutDistinct (limit offset : Option Syntax.Term) (input : Plan) :
    limitBy (limit.map Syntax.Term.withoutDistinct) (offset.map Syntax.Term.withoutDistinct) input
      = limitBy limit offset input := by
  have counts : ∀ (default : Nat) (term : Option Syntax.Term),
      rowCountOr default (term.map Syntax.Term.withoutDistinct) = rowCountOr default term := by
    intro default term
    cases term with
    | none => rfl
    | some term => exact rowCount_withoutDistinct term
  rw [limitBy, limitBy, Option.isNone_map, Option.isNone_map, counts, counts]

/-- **A query has the same plan** with its marks and without them, or is rejected with the same
error. -/
theorem ofQuery_withoutDistinct (tableColumns : String → List String) (query : Syntax.Query) :
    ofQuery tableColumns query.withoutDistinct = ofQuery tableColumns query := by
  unfold ofQuery Syntax.Query.withoutDistinct
  cases query.body with
  | other => rfl
  | select clause =>
      simp only [Syntax.QueryBody.withoutDistinct, ofSelect_eq, readSelect_withoutDistinct,
        limitBy_withoutDistinct]

end Plan

end ScalarSql
