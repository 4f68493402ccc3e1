import ScalarSql.Proofs.Plan.RespelledOrder
import ScalarSql.Proofs.Syntax.LetterCase

/-!
# Select clauses in other letter case

Two select clauses that are the same up to case are read alike, `alike_readSelect`: inputs,
grouping keys, select lists and conditions are the same up to case, and there are as many
sort keys with the same directions.  What the sort keys refer to and which columns are hidden
is not settled by that, since a sort key is compared with the select list as it is spelled.

Collecting the aggregates fails for both clauses or for neither, as an argument is accepted
or not by its form.
-/

set_option autoImplicit false

namespace ScalarSql

open Text (small)

/-! ## Inputs -/

namespace Plan

/-- Two plans for a from clause and a condition that are the same up to case. -/
inductive RespelledInput : Plan → Plan → Prop where
  | oneRow : RespelledInput .oneRow .oneRow
  | scan (table : String) (left right : Option String) (same : left.map small = right.map small) :
      RespelledInput (.scan table left) (.scan table right)
  | filter (predicate other : Expr) (left right : Plan) (same : predicate.Respelled other)
      (input : RespelledInput left right) :
      RespelledInput (.filter predicate left) (.filter other right)

theorem RespelledInput.alike {session : Session} (ignores : session.scope.IgnoresCase)
    {left right : Plan} (input : RespelledInput left right) : session.Alike True left right := by
  induction input with
  | oneRow => exact Session.alike_oneRow True
  | scan table _ _ same => exact Session.alike_scan True table same
  | filter _ _ _ _ same _ ih => exact ih.filter ignores same

theorem RespelledInput.scannedColumns {left right : Plan} (input : RespelledInput left right)
    (tableColumns : String → List String) :
    Plan.scannedColumns tableColumns left = Plan.scannedColumns tableColumns right := by
  cases input <;> rfl

theorem RespelledInput.filterBy {left right : Plan} (input : RespelledInput left right)
    {condition other : Option Expr} (same : condition.map Expr.caseless = other.map Expr.caseless) :
    RespelledInput (Plan.filterBy condition left) (Plan.filterBy other right) := by
  cases condition with
  | none =>
      rw [Option.map_none, eq_comm, Option.map_eq_none_iff] at same
      rw [same]
      exact input
  | some predicate =>
      rw [Option.map_some, eq_comm, Option.map_eq_some_iff] at same
      obtain ⟨other, rfl, same⟩ := same
      exact .filter predicate other left right same.symm input

theorem alike_ofSources {lefts rights : List Syntax.FromItem}
    (same : lefts.map Syntax.FromItem.caseless = rights.map Syntax.FromItem.caseless) :
    SucceedAlike RespelledInput (ofSources lefts) (ofSources rights) := by
  cases forall₂_of_map_eq same with
  | nil => exact .ok _ _ .oneRow
  | @cons left right _ _ here rest =>
      cases rest with
      | cons _ _ => exact .error _ _
      | nil =>
          obtain ⟨source, joined, -⟩ := Syntax.FromItem.mk.inj here
          simp only [ofSources, joined]
          split
          · exact .error _ _
          · generalize left.source = first, right.source = second at source
            cases first with
            | other =>
                cases second with
                | other => exact .error _ _
                | table _ _ => cases source
            | table name aliasName =>
                cases second with
                | other => cases source
                | table name other =>
                    obtain ⟨rfl, sameAlias⟩ := Syntax.Source.table.inj source
                    refine .ok _ _ (.scan _ _ _ ?_)
                    have texts := congrArg (Option.map Syntax.Name.text) sameAlias
                    rw [Option.map_map, Option.map_map] at texts
                    rw [Option.map_map, Option.map_map]
                    exact texts

end Plan

/-! ## Sort keys -/

namespace Plan

section SortKeys

variable {first second : NameScope} (scopes : first.Respelled second)
  {columns others : List NamedExpr} (same : List.Forall₂ NamedExpr.Respelled columns others)

include scopes same

/-- Two sort keys of one direction; over a star they are sorted by the same up to case. -/
theorem alike_sortKey {left right : Syntax.OrderItem} (here : left.caseless = right.caseless) :
    SucceedAlike (fun key other : SortKey => key.SameDirection other ∧
        (columns = [] → key.Respelled other))
      (sortKey first columns left) (sortKey second others right) := by
  obtain ⟨term, ascending, nullsFirst, -⟩ := Syntax.OrderItem.mk.inj here
  refine (alike_sortExpr scopes term).map fun written other respelled => ?_
  have directions : ∀ expr another : Expr, SortKey.SameDirection
      { expr, ascending := left.ascending.getD true,
        nullsFirst := left.nullsFirst.getD (left.ascending.getD true) }
      { expr := another, ascending := right.ascending.getD true,
        nullsFirst := right.nullsFirst.getD (right.ascending.getD true) } := by
    intro _ _
    rw [ascending, nullsFirst]
    exact ⟨rfl, rfl⟩
  refine ⟨directions _ _, fun star => ⟨directions _ _, ?_⟩⟩
  subst star
  cases same
  exact respelled

theorem alike_sortKeys {order otherOrder : List Syntax.OrderItem}
    (orders : order.map Syntax.OrderItem.caseless = otherOrder.map Syntax.OrderItem.caseless)
    (hidden otherHidden : List NamedExpr) :
    SucceedAlike (fun left right : List SortKey × List NamedExpr =>
        List.Forall₂ SortKey.SameDirection left.1 right.1 ∧
          (columns = [] → List.Forall₂ SortKey.Respelled left.1 right.1))
      (sortKeys first columns hidden order) (sortKeys second others otherHidden otherOrder) := by
  have items := forall₂_of_map_eq orders
  clear orders
  induction items generalizing hidden otherHidden with
  | nil => exact .ok _ _ ⟨.nil, fun _ => .nil⟩
  | cons here _ ih =>
      simp only [sortKeys]
      refine (alike_sortKey scopes same here).bind fun key other respelled => ?_
      refine (ih _ _).bind fun keys otherKeys rest => .ok _ _ ⟨?_, fun star => ?_⟩
      · exact .cons ⟨respelled.1.ascending, respelled.1.nullsFirst⟩ rest.1
      · have here := respelled.2 star
        subst star
        cases same
        exact .cons ⟨⟨here.ascending, here.nullsFirst⟩, here.expr⟩ (rest.2 rfl)

end SortKeys

end Plan

/-! ## Reading select clauses -/

/-- The parts of two select clauses that are the same up to case, other than which columns
their sort keys refer to. -/
structure SelectParts.Respelled (left right : SelectParts) : Prop where
  input : left.input.RespelledInput right.input
  keys : List.Forall₂ NamedExpr.Respelled left.keys right.keys
  columns : List.Forall₂ NamedExpr.Respelled left.part.columns right.part.columns
  having : left.part.having.map Expr.caseless = right.part.having.map Expr.caseless
  directions : List.Forall₂ SortKey.SameDirection left.sorting right.sorting
  star : left.part.columns = [] → List.Forall₂ SortKey.Respelled left.sorting right.sorting

namespace Plan

/-- **Respelled select clauses** have respelled parts, or none. -/
theorem alike_readSelect (tableColumns : String → List String) {left right : Syntax.Select}
    (same : left.caseless = right.caseless) {order otherOrder : List Syntax.OrderItem}
    (orders : order.map Syntax.OrderItem.caseless = otherOrder.map Syntax.OrderItem.caseless) :
    SucceedAlike SelectParts.Respelled (readSelect tableColumns left order)
      (readSelect tableColumns right otherOrder) := by
  obtain ⟨-, items, sources, condition, grouping, having⟩ := Syntax.Select.mk.inj same
  unfold readSelect
  refine (alike_ofSources sources).bind fun source other input => ?_
  have empty : NameScope.Respelled
      { columns := (scannedColumns tableColumns source).map Text.lower }
      { columns := (scannedColumns tableColumns other).map Text.lower } := by
    rw [input.scannedColumns]
    exact .refl _
  refine (alike_defineAliases empty items).bind fun scope otherScope scopes => ?_
  refine (alike_optionalExpr scopes condition).bind fun condition otherCondition conditions => ?_
  refine (alike_groupKeys scopes grouping).bind fun keys otherKeys sameKeys => ?_
  refine (alike_selectedColumns scopes items).bind fun columns otherColumns sameColumns => ?_
  refine (alike_sortKeys scopes sameColumns orders [] []).bind ?_
  rintro ⟨sorting, hidden⟩ ⟨otherSorting, otherHidden⟩ ⟨directions, star⟩
  refine (alike_optionalExpr scopes having).bind fun having otherHaving havings => ?_
  exact .ok _ _ ⟨input.filterBy conditions, sameKeys, sameColumns, havings, directions, star⟩

end Plan

/-! ## Collecting aggregates -/

namespace Expr

theorem aggregateArgument_several (function : AggregateFunction) (first second : Expr)
    (rest : List Expr) :
    ∃ fault, aggregateArgument function (first :: second :: rest) = .error fault := by
  rw [aggregateArgument]
  · exact ⟨_, rfl⟩
  · rintro ⟨⟩
  · rintro ⟨⟩
  · rintro _ ⟨⟩

/-- Whether an aggregate can be computed is a matter of how many arguments it has. -/
theorem alike_aggregateArgument (function : AggregateFunction) {lefts rights : List Expr}
    (length : lefts.length = rights.length) :
    SucceedAlike (fun _ _ => True) (aggregateArgument function lefts)
      (aggregateArgument function rights) := by
  have one : ∀ expr : Expr, ∃ argument, aggregateArgument function [expr] = .ok argument := by
    intro expr
    unfold aggregateArgument
    split
    · exact ⟨_, rfl⟩
    · exact ⟨_, rfl⟩
    · exact ⟨_, rfl⟩
    · next none _ some => exact absurd rfl (some expr)
  match lefts, rights, length with
  | [], [], _ => exact .ok _ _ trivial
  | [left], [right], _ =>
      obtain ⟨argument, leftOk⟩ := one left
      obtain ⟨other, rightOk⟩ := one right
      rw [leftOk, rightOk]
      exact .ok _ _ trivial
  | left :: second :: rest, right :: other :: others, _ =>
      obtain ⟨fault, leftError⟩ := aggregateArgument_several function left second rest
      obtain ⟨another, rightError⟩ := aggregateArgument_several function right other others
      rw [leftError, rightError]
      exact .error _ _

theorem alike_collectAll {lefts rights : List Expr}
    (each : List.Forall₂ (fun left right : Expr =>
      RunAlike (fun _ _ => True) left.collectAggregates right.collectAggregates) lefts rights) :
    RunAlike (fun _ _ => True) (collectAllAggregates lefts) (collectAllAggregates rights) := by
  induction each with
  | nil => exact .pure trivial
  | cons here _ ih =>
      simp only [collectAllAggregates]
      exact here.bind fun _ _ _ => ih.bind fun _ _ _ => .pure trivial

theorem alike_collectCaseless (expr : Expr) :
    RunAlike (fun _ _ => True) expr.collectAggregates expr.caseless.collectAggregates := by
  induction expr using inductionOn with
  | column _ | literal _ => exact .pure trivial
  | binary op left right leftAlike rightAlike =>
      simp only [caseless_binary, collectAggregates]
      exact leftAlike.bind fun _ _ _ => rightAlike.bind fun _ _ _ => .pure trivial
  | not operand alike | negate operand alike | isNull operand alike | isNotNull operand alike =>
      simp only [caseless_not, caseless_negate, caseless_isNull, caseless_isNotNull,
        collectAggregates]
      exact alike.map fun _ _ _ => trivial
  | cast operand _ _ alike | field operand _ alike =>
      simp only [caseless_cast, caseless_field, collectAggregates]
      exact alike.bind fun _ _ _ => .pure trivial
  | call name arguments each =>
      have all := alike_collectAll
        (List.forall₂_map_right_iff.mpr (List.forall₂_same.mpr each))
      simp only [caseless_call, collectAggregates,
        AggregateFunction.ofName?_congr (Text.small_small name)]
      cases AggregateFunction.ofName? name with
      | none => exact all.map fun _ _ _ => trivial
      | some function =>
          have lengths : arguments.length = (arguments.map caseless).length :=
            (List.length_map caseless).symm
          have argument := alike_aggregateArgument function lengths
          exact (RunAlike.lift argument).bind fun _ _ _ => fun _ _ => .ok _ _ trivial
  | invocation function arguments each =>
      have all := alike_collectAll
        (List.forall₂_map_right_iff.mpr (List.forall₂_same.mpr each))
      simp only [caseless_invocation, collectAggregates]
      exact all.map fun _ _ _ => trivial

theorem alike_collectAggregates {left right : Expr} (same : left.Respelled right) :
    RunAlike (fun _ _ => True) left.collectAggregates right.collectAggregates := by
  intro start begin
  have fromCaseless := (alike_collectCaseless right).symm [] begin
  rw [← same] at fromCaseless
  exact (alike_collectCaseless left start []).trans fromCaseless fun _ _ _ _ _ => trivial

end Expr

namespace NamedExpr

/-- A named expression with columns in place of its aggregate calls. -/
def collect (item : NamedExpr) : Expr.Collecting NamedExpr := do
  let expr ← item.expr.collectAggregates
  pure { item with expr }

theorem collectAggregates_eq_mapM (items : List NamedExpr) :
    collectAggregates items = items.mapM collect := by
  induction items with
  | nil => rfl
  | cons item rest ih =>
      simp only [collectAggregates, ih, List.mapM_cons, collect, bind_assoc, pure_bind]

end NamedExpr

namespace Plan

/-- **Aggregates are collected** from both of two parts with the same expressions up to case,
or from none. -/
theorem alike_collectPart {part other : GroupedPart}
    (items : Covering NamedExpr.SameExpr (part.columns ++ part.hidden)
      (other.columns ++ other.hidden))
    (having : part.having.map Expr.caseless = other.having.map Expr.caseless) :
    RunAlike (fun _ _ => True) part.collectAggregates other.collectAggregates := by
  -- Only the first list of expressions matters, not where the hidden ones begin.
  have shape : ∀ part : GroupedPart, (fun _ => ()) <$> part.collectAggregates = (do
      let _ ← (part.columns ++ part.hidden).mapM NamedExpr.collect
      (fun _ => ()) <$> part.having.toList.mapM Expr.collectAggregates) := by
    rintro ⟨columns, hidden, having⟩
    cases having <;> simp only [GroupedPart.collectAggregates, NamedExpr.collectAggregates_eq_mapM,
      List.mapM_append, map_eq_pure_bind, bind_assoc, pure_bind, Option.toList_none,
      Option.toList_some, List.mapM_cons, List.mapM_nil]
  have each : ∀ left right : NamedExpr, left.SameExpr right →
      RunAlike (fun _ _ => True) left.collect right.collect := fun left right same =>
    (Expr.alike_collectAggregates same).bind fun _ _ _ => .pure trivial
  have conditions : RunAlike (fun _ _ => True)
      ((fun _ => ()) <$> part.having.toList.mapM Expr.collectAggregates)
      ((fun _ => ()) <$> other.having.toList.mapM Expr.collectAggregates) := by
    have same := congrArg Option.toList having
    rw [Option.toList_map, Option.toList_map] at same
    have each : ∀ left right : Expr, left.caseless = right.caseless →
        RunAlike (fun _ _ => True) left.collectAggregates right.collectAggregates :=
      fun _ _ => Expr.alike_collectAggregates
    exact (RunAlike.mapM_of_covering (.of_forall₂ (forall₂_of_map_eq same)) each).map
      fun _ _ _ => trivial
  have both : RunAlike (fun _ _ => True) ((fun _ => ()) <$> part.collectAggregates)
      ((fun _ => ()) <$> other.collectAggregates) := by
    rw [shape, shape]
    exact (RunAlike.mapM_of_covering items each).bind fun _ _ _ => conditions
  exact both.of_map

end Plan

namespace SelectParts

/-! ## Grouped select clauses -/

theorem grouped_iff (parts : SelectParts) :
    parts.grouped = true ↔ parts.keys ≠ [] ∨ parts.aggregates ≠ [] := by
  rw [aggregates, ne_eq, ne_eq, Plan.addAggregates_eq_nil, grouped, Plan.isGrouped,
    Bool.not_eq_true', Bool.and_eq_false_iff, List.isEmpty_eq_false_iff,
    List.isEmpty_eq_false_iff]

end SelectParts

namespace Plan

/-- The parts of a select clause make up a plan if its aggregates can be collected and it is
not a star over groups. -/
theorem alike_assemble {left right : SelectParts}
    (collects : RunAlike (fun _ _ => True) left.part.collectAggregates
      right.part.collectAggregates) (grouped : left.grouped = right.grouped)
    (listed : left.part.columns = [] ↔ right.part.columns = []) :
    SucceedAlike (fun first second =>
        (first = projectSorted left.above left.sorting (filterBy left.above.having left.below) ∧
          (left.grouped = true → left.part.columns ≠ [])) ∧
        second = projectSorted right.above right.sorting (filterBy right.above.having right.below))
      (assemble left) (assemble right) := by
  have alike : SucceedAlike (fun _ _ => True) (assemble left) (assemble right) := by
    unfold assemble group
    simp only [bind_assoc]
    refine (collects [] []).computed.bind ?_
    rintro ⟨part, aggregates⟩ ⟨other, others⟩ ⟨-, collected, otherCollected⟩
    cases GroupedPart.eq_of_collectAggregates collected
    cases GroupedPart.eq_of_collectAggregates otherCollected
    have flag : ∀ parts : SelectParts, (parts.keys.isEmpty
        && (addAggregates [] parts.part.aggregateCalls).isEmpty) = !parts.grouped := by
      intro parts
      rw [SelectParts.grouped, isGrouped, Bool.not_not, Bool.eq_iff_iff, Bool.and_eq_true,
        Bool.and_eq_true, List.isEmpty_iff, List.isEmpty_iff, List.isEmpty_iff,
        addAggregates_eq_nil]
    have columns : ∀ part : GroupedPart,
        part.withoutAggregates.columns.isEmpty = part.columns.isEmpty := by
      intro part
      rw [GroupedPart.withoutAggregates, NamedExpr.withoutAggregates, List.isEmpty_map]
    have bothListed : left.part.columns.isEmpty = right.part.columns.isEmpty := by
      rw [Bool.eq_iff_iff, List.isEmpty_iff, List.isEmpty_iff, listed]
    simp only [flag, columns, grouped, bothListed]
    cases right.grouped with
    | false => exact .ok _ _ trivial
    | true =>
        cases right.part.columns.isEmpty with
        | false => exact .ok _ _ trivial
        | true => exact .error _ _
  refine alike.computed.imp ?_
  rintro first second ⟨-, assembled, otherAssembled⟩
  exact ⟨eq_of_assemble assembled, (eq_of_assemble otherAssembled).1⟩

end Plan

end ScalarSql
