import ScalarSql.Proofs.Expr.Paths
import ScalarSql.Proofs.Plan.ResolvedCalls

/-!
# Where the calls of registered functions go

A name under which functions are registered stands for these functions and not for built-in
ones, and analysis follows this in every expression.

**Clauses.**  The condition, the grouping keys, the arguments of aggregate calls and the sort
keys of a star reach analysis as they are written, `SelectParts.asWritten`.  The select list,
the other sort keys and the condition on groups are first searched for calls of `COUNT`,
`SUM`, `AVG`, `MIN` and `MAX`, whatever is registered under these names.

**Main result.**  `Plan.goesToRegistered_of_ofQuery`: a call goes to the registered functions
in every clause, except where it stands in the select list, in a computed sort key or in the
condition on groups, outside the arguments of aggregate calls, and its name is that of an
aggregate function.
-/

set_option autoImplicit false

namespace ScalarSql

/-! ## Planning -/

theorem NamedExpr.collected_of_mem {items : List NamedExpr} {aggregates : List Aggregate}
    {outcome : List NamedExpr × List Aggregate}
    (collected : collectAggregates items aggregates = .ok outcome) :
    ∀ item ∈ items, ∃ before after, item.expr.collectAggregates before = .ok after := by
  induction items generalizing aggregates outcome with
  | nil => exact fun _ member => nomatch member
  | cons first rest ih =>
      simp only [collectAggregates, state_bind_eq_ok] at collected
      obtain ⟨_, _, firstCollected, _, _, restCollected, -⟩ := collected
      exact List.forall_mem_cons.mpr ⟨⟨_, _, firstCollected⟩, ih restCollected⟩

namespace Plan

/-- The expressions that see the groups: the select list, the hidden sort keys and the
condition on groups. -/
def GroupedPart.exprs (part : GroupedPart) : List Expr :=
  (part.columns ++ part.hidden).map NamedExpr.expr ++ part.having.toList

theorem GroupedPart.collected_of_mem {part : GroupedPart} {aggregates : List Aggregate}
    {outcome : GroupedPart × List Aggregate}
    (collected : part.collectAggregates aggregates = .ok outcome) :
    ∀ expr ∈ part.exprs, ∃ before after, expr.collectAggregates before = .ok after := by
  obtain ⟨columns, hidden, having⟩ := part
  simp only [collectAggregates, state_bind_eq_ok] at collected
  obtain ⟨_, _, columnsCollected, _, _, hiddenCollected, collected⟩ := collected
  simp only [exprs, List.forall_mem_append, List.forall_mem_map]
  refine ⟨⟨NamedExpr.collected_of_mem columnsCollected, NamedExpr.collected_of_mem hiddenCollected⟩,
    ?_⟩
  rintro condition member
  obtain rfl := Option.mem_toList.mp member
  simp only [state_bind_eq_ok] at collected
  obtain ⟨_, _, conditionCollected, -⟩ := collected
  exact ⟨_, _, conditionCollected⟩

theorem GroupedPart.aggregateCalls_eq_flatMap (part : GroupedPart) :
    part.aggregateCalls = part.exprs.flatMap Expr.aggregateCalls := by
  simp only [aggregateCalls, exprs, NamedExpr.aggregateCalls, List.flatMap_append,
    List.flatMap_map, List.map_append]

theorem GroupedPart.overKeys_nil (part : GroupedPart) : part.overKeys [] = part := by
  have same : Expr.replace (Expr.keyColumn? []) = id :=
    funext fun expr => expr.replace_eq_self fun _ => rfl
  have items : NamedExpr.overKeys [] = id := by
    funext item
    rw [NamedExpr.overKeys, same]
    rfl
  rw [overKeys, items, same, List.map_id, List.map_id, Option.map_id]
  rfl

theorem exprs_filterBy (condition : Option Expr) (input : Plan) :
    (filterBy condition input).exprs = condition.toList ++ input.exprs := by
  cases condition <;> rfl

theorem exprs_sortBy (keys : List SortKey) (input : Plan) :
    (sortBy keys input).exprs = keys.map SortKey.expr ++ input.exprs := by
  cases keys <;> rfl

theorem exprs_projectSorted (part : GroupedPart) (keys : List SortKey) (input : Plan) :
    keys.map SortKey.expr ++ ((part.columns ++ part.hidden).map NamedExpr.expr ++ input.exprs)
      ⊆ (projectSorted part keys input).exprs := by
  have sorted : (sortBy keys (.project (part.columns ++ part.hidden) input)).exprs
      = keys.map SortKey.expr ++ ((part.columns ++ part.hidden).map NamedExpr.expr
        ++ input.exprs) := exprs_sortBy _ _
  unfold projectSorted
  dsimp only
  split
  · exact sorted ▸ List.Subset.refl _
  · exact sorted ▸ List.subset_append_right _ _

end Plan

namespace SelectParts

/-- The expressions that are analysed as they are written: the condition, the grouping keys,
the arguments of the aggregates, and the sort keys. -/
def asWritten (parts : SelectParts) : List Expr :=
  parts.keys.map NamedExpr.expr ++ parts.aggregates.map Aggregate.expr ++ parts.input.exprs
    ++ parts.sorting.map SortKey.expr

/-- A query that does not group its rows has no keys and no aggregates. -/
theorem of_not_grouped {parts : SelectParts} (plain : parts.grouped = false) :
    parts.keys = [] ∧ parts.aggregates = [] := by
  simp only [grouped, Plan.isGrouped, Bool.not_eq_false', Bool.and_eq_true, List.isEmpty_iff]
    at plain
  exact ⟨plain.1, by rw [aggregates, plain.2, addAggregates_nil]⟩

/-- Without groups there is nothing to rewrite above the rows. -/
theorem above_eq_rewritten (parts : SelectParts) : parts.above = parts.rewritten := by
  cases grouped : parts.grouped with
  | true => simp only [above, grouped, if_true]
  | false =>
      simp only [above, grouped, Bool.false_eq_true, if_false, rewritten,
        (of_not_grouped grouped).1, Plan.GroupedPart.overKeys_nil]

theorem exprs_below (parts : SelectParts) :
    parts.below.exprs = parts.keys.map NamedExpr.expr ++ parts.aggregates.map Aggregate.expr
      ++ parts.input.exprs := by
  cases grouped : parts.grouped with
  | true =>
      simp only [below, grouped, if_true]
      rfl
  | false =>
      obtain ⟨noKeys, noAggregates⟩ := of_not_grouped grouped
      simp only [below, grouped, Bool.false_eq_true, if_false, noKeys, noAggregates]
      rfl

theorem exprs_rewritten (parts : SelectParts) :
    parts.rewritten.exprs = parts.part.exprs.map (Expr.rewritten parts.keys) := by
  have items : ∀ items : List NamedExpr,
      ((NamedExpr.withoutAggregates items).map (NamedExpr.overKeys parts.keys)).map NamedExpr.expr
        = (items.map NamedExpr.expr).map (Expr.rewritten parts.keys) := by
    intro items
    simp only [NamedExpr.withoutAggregates, List.map_map]
    rfl
  have condition : ((parts.part.having.map Expr.withoutAggregates).map
      (Expr.replace (Expr.keyColumn? parts.keys))).toList
        = parts.part.having.toList.map (Expr.rewritten parts.keys) := by
    cases parts.part.having <;> rfl
  simp only [rewritten, Plan.GroupedPart.overKeys, Plan.GroupedPart.withoutAggregates,
    Plan.GroupedPart.exprs, List.map_append, items, condition]

/-- **The expressions of a plan** contain those that are analysed as they are written and, as
they are rewritten, those that see the groups. -/
theorem subset_exprs_of_assemble {parts : SelectParts} {plan : Plan}
    (assembled : Plan.assemble parts = .ok plan) :
    parts.asWritten ++ parts.part.exprs.map (Expr.rewritten parts.keys) ⊆ plan.exprs := by
  obtain ⟨rfl, -⟩ := Plan.eq_of_assemble assembled
  refine List.Subset.trans ?_ (Plan.exprs_projectSorted _ _ _)
  rw [Plan.exprs_filterBy, exprs_below, ← exprs_rewritten, above_eq_rewritten, asWritten,
    Plan.GroupedPart.exprs]
  intro expr
  simp only [List.mem_append]
  tauto

/-! ## Clauses -/

/-- The query computes the first of its aggregate calls that are spelled like the given one,
which share a column. -/
def Collects (parts : SelectParts) (call : Aggregate) : Prop :=
  ∃ aggregate ∈ parts.aggregates,
    parts.part.aggregateCalls.find? (fun other => other.name == call.name) = some aggregate

theorem collects_of_mem {parts : SelectParts} {call : Aggregate}
    (member : call ∈ parts.part.aggregateCalls) : parts.Collects call := by
  have found : (parts.part.aggregateCalls.find? fun other => other.name == call.name).isSome
      = true := by
    rw [List.find?_isSome]
    exact ⟨call, member, beq_self_eq_true _⟩
  obtain ⟨aggregate, first⟩ := Option.isSome_iff_exists.mp found
  refine ⟨aggregate, ?_, first⟩
  have sameNames : ∀ left right : Aggregate, left.name = right.name →
      (left.name == call.name) = (right.name == call.name) := fun _ _ same => by rw [same]
  have kept := find?_addAggregates _ sameNames [] parts.part.aggregateCalls
  rw [List.nil_append, first] at kept
  exact List.mem_of_find?_eq_some kept

end SelectParts

namespace Plan

/-- The expression stands in the analysed plan as it is resolved there, and each call of the
name in it, wherever it stands, is an invocation of one of the candidates. -/
def Invokes (scope : FunctionScope) (analyzed : Plan) (name : String)
    (candidates : List Callable) (written : Expr) : Prop :=
  ∃ schema, ∃ resolved ∈ analyzed.exprs, Expr.ResolvesTo scope schema written resolved ∧
    ∀ path arguments, written.at? path = some (.call name arguments) →
      ∃ function converted, function.callable ∈ candidates ∧
        .invocation function converted ∈ resolved.parts ∧
        Expr.ResolvesTo scope schema (.call name arguments) (.invocation function converted)

/-- Where the calls of a name go in a query, if the candidates are registered under it. -/
structure GoesToRegistered (scope : FunctionScope) (names : NameScope)
    (order : List Syntax.OrderItem) (parts : SelectParts) (analyzed : Plan) (name : String)
    (candidates : List Callable) : Prop where
  /-- A call resolves, over any columns, if one of the functions can be called with its
  arguments, and it goes to the preferred one of those. -/
  resolves : ∀ (schema : Schema) (written arguments : List Expr) (types : List DataType)
    (start after : Nat), Expr.resolveAll scope schema written start = .ok (arguments, after) →
    List.Forall₂ (fun argument type => argument.dataType schema = .ok type) arguments types →
    (∃ callable ∈ candidates, Expr.Applicable scope.narrowing arguments types callable) →
    ∃ position callable converted,
      Expr.Preferred types candidates (Expr.Applicable scope.narrowing arguments types)
        position callable ∧
      (Expr.call name written).resolve scope schema start
        = .ok (.invocation { id := after, callable } converted, after + 1)
  /-- In the condition, the grouping keys, the arguments of aggregates and the sort keys all
  calls of the name go to the functions. -/
  asWritten : ∀ expr ∈ parts.asWritten, Invokes scope analyzed name candidates expr
  /-- In the select list, the hidden sort keys and the condition on groups all those go there
  that planning leaves. -/
  aboveGroups : ∀ expr ∈ parts.part.exprs,
    Invokes scope analyzed name candidates (expr.rewritten parts.keys)
  /-- Outside the arguments of aggregate calls, planning leaves a call of the name, perhaps in
  a grouping key that it is part of, exactly if no aggregate function has the name. -/
  leaves : ∀ expr ∈ parts.part.exprs, ∀ path arguments,
    expr.at? path = some (.call name arguments) → expr.OutsideAggregates path →
      (expr.LeavesCall parts.keys path name ↔ AggregateFunction.ofName? name = none)
  /-- If one has, the call is taken for a call of the aggregate function. -/
  takes : ∀ expr ∈ parts.part.exprs, ∀ path arguments function,
    expr.at? path = some (.call name arguments) → expr.OutsideAggregates path →
      AggregateFunction.ofName? name = some function →
        parts.Collects (Expr.aggregateCall function arguments)
  /-- In the arguments of an aggregate call, a call of the name stands in what the aggregate
  is computed from. -/
  inArguments : ∀ expr ∈ parts.part.exprs, ∀ path arguments,
    expr.at? path = some (.call name arguments) → ¬ expr.OutsideAggregates path →
      ∃ outer inner aggregateName function argument, path = outer ++ 0 :: inner ∧
        expr.at? outer = some (.call aggregateName [argument]) ∧
        AggregateFunction.ofName? aggregateName = some function ∧
        argument.at? inner = some (.call name arguments) ∧
        parts.Collects (Expr.aggregateCall function [argument]) ∧
        (Expr.aggregateCall function [argument]).expr = argument
  /-- In a sort key a call of the name stays as it is written, or a column of the select list
  or a hidden one has a call of the name in its place. -/
  ordering : ∀ (position : Nat) (item : Syntax.OrderItem) (key : SortKey),
    order[position]? = some item → parts.sorting[position]? = some key →
      ∃ written, sortExpr names item.term = .ok written ∧
        ∀ path arguments, written.at? path = some (.call name arguments) →
          key.expr = written ∨ ∃ column ∈ parts.part.columns ++ parts.part.hidden,
            key.expr = .column column.name ∧
              ∃ others, column.expr.at? path = some (.call name others)

section Registered

variable {scope : FunctionScope} {catalog : Catalog} {name : String}
  {candidates : List Callable} (registered : scope.registered.lookup name = some candidates)

include registered

theorem resolve_registered {schema : Schema} {written arguments : List Expr}
    {types : List DataType} {start after : Nat}
    (resolved : Expr.resolveAll scope schema written start = .ok (arguments, after))
    (typed : List.Forall₂ (fun argument type => argument.dataType schema = .ok type)
      arguments types)
    (applies : ∃ callable ∈ candidates,
      Expr.Applicable scope.narrowing arguments types callable) :
    ∃ position callable converted,
      Expr.Preferred types candidates (Expr.Applicable scope.narrowing arguments types)
        position callable ∧
      (Expr.call name written).resolve scope schema start
        = .ok (.invocation { id := after, callable } converted, after + 1) := by
  have found : scope.lookup name = some candidates :=
    FunctionScope.offers_iff.mp (.inl registered)
  have chooses := Expr.chooses_of_found after typed found
  rw [← Expr.resolve_call_eq resolved] at chooses
  obtain ⟨result, made⟩ := chooses.resolves.mpr applies
  obtain ⟨position, callable, converted, preferred, -, rfl⟩ := chooses.chosen result made
  exact ⟨position, callable, converted, preferred, made⟩

/-- Every expression of an accepted plan calls the registered functions. -/
theorem invokes_of_analyzeNode {plan : Plan} {next : Nat} {analyzed : (Plan × Schema) × Nat}
    (accepted : plan.analyzeNode scope catalog next = .ok analyzed) :
    ∀ written ∈ plan.exprs, Invokes scope analyzed.1.1 name candidates written := by
  intro written member
  obtain ⟨schema, resolved, isResolved, result⟩ :=
    resolvedAmong_of_analyzeNode accepted written member
  refine ⟨schema, resolved, isResolved, result, ?_⟩
  intro path arguments found
  obtain ⟨function, converted, invoked, alone⟩ :=
    Expr.exists_invocation_of_call result (Expr.mem_parts_of_at? found)
  obtain ⟨_, _, others, same, known, candidate⟩ := Expr.invocation_of_call alone
  cases same
  have found : scope.lookup name = some candidates :=
    FunctionScope.offers_iff.mp (.inl registered)
  rw [found] at known
  cases known
  exact ⟨function, converted, candidate, invoked, alone⟩

end Registered

/-- A call in a written sort key stays there, or a column has one of its name in its place. -/
theorem SortsBy.call {columns hidden : List NamedExpr} {written expr : Expr} {path : List Nat}
    {name : String} {arguments : List Expr} (sorts : SortsBy columns hidden written expr)
    (found : written.at? path = some (.call name arguments)) :
    expr = written ∨ ∃ column ∈ columns ++ hidden, expr = .column column.name ∧
      ∃ others, column.expr.at? path = some (.call name others) := by
  cases sorts with
  | star none => exact .inl rfl
  | item column first =>
      have alike : Expr.same column.expr written = true :=
        List.find?_some (p := fun other => Expr.same (NamedExpr.expr other) written) first
      exact .inr ⟨column, List.mem_append_left _ (List.mem_of_find?_eq_some first), rfl,
        Expr.call_at?_of_same alike found⟩
  | named plainName plain _ _ =>
      rw [plain] at found
      cases Expr.eq_of_at?_column found
  | hidden column member computes _ _ =>
      refine .inr ⟨column, List.mem_append_right _ member, rfl, ?_⟩
      rcases computes with same | alike
      · exact ⟨arguments, same ▸ found⟩
      · exact Expr.call_at?_of_same alike found

/-- A limit adds no expressions. -/
theorem exprs_limitBy {limit offset : Option Syntax.Term} {inner plan : Plan}
    (limited : limitBy limit offset inner = .ok plan) : plan.exprs = inner.exprs := by
  unfold limitBy at limited
  split at limited
  · cases limited
    rfl
  · simp only [bind_eq_ok] at limited
    obtain ⟨_, _, _, _, made⟩ := limited
    cases made
    rfl

theorem collected_of_assemble {parts : SelectParts} {plan : Plan}
    (assembled : assemble parts = .ok plan) :
    ∀ expr ∈ parts.part.exprs, ∃ before after, expr.collectAggregates before = .ok after := by
  simp only [assemble, group, bind_eq_ok] at assembled
  obtain ⟨_, ⟨_, collected, -⟩, -⟩ := assembled
  exact GroupedPart.collected_of_mem collected

/-- **A registered function is the one that runs**, up to the names of the aggregate functions.
If a query is accepted and functions are registered under a name, then each clause is read
into the parts of the query, and its calls of the name go to these functions as
`GoesToRegistered` says: without exception in the condition, the grouping keys and the
arguments of aggregates, and in the select list, the order and the condition on groups exactly
if the name is not that of an aggregate function. -/
theorem goesToRegistered_of_ofQuery (tableColumns : String → List String)
    (query : Syntax.Query) (select : Syntax.Select) (plan : Plan) (scope : FunctionScope)
    (catalog : Catalog) (next : Nat) (analyzed : (Plan × Schema) × Nat) (name : String)
    (candidates : List Callable) (body : query.body = .select select)
    (registered : scope.registered.lookup name = some candidates)
    (planned : ofQuery tableColumns query = .ok plan)
    (accepted : plan.analyzeNode scope catalog next = .ok analyzed) :
    ∃ names parts, scopeOf tableColumns select = .ok names ∧
      readSelect tableColumns select query.order = .ok parts ∧ ReadIn names select parts ∧
      GoesToRegistered scope names query.order parts analyzed.1.1 name candidates := by
  simp only [ofQuery, body, ofSelect_eq, bind_eq_ok] at planned
  obtain ⟨inner, ⟨parts, read, assembled⟩, limited⟩ := planned
  obtain ⟨names, defined, readIn, sorted⟩ := readIn_of_readSelect read
  have invokes : ∀ written ∈ parts.asWritten ++ parts.part.exprs.map (Expr.rewritten parts.keys),
      Invokes scope analyzed.1.1 name candidates written := by
    intro written member
    refine invokes_of_analyzeNode registered accepted written ?_
    rw [exprs_limitBy limited]
    exact SelectParts.subset_exprs_of_assemble assembled member
  have collected := collected_of_assemble assembled
  have collects : ∀ expr ∈ parts.part.exprs, ∀ call ∈ expr.aggregateCalls, parts.Collects call := by
    intro expr member call isCall
    refine SelectParts.collects_of_mem ?_
    rw [GroupedPart.aggregateCalls_eq_flatMap]
    exact List.mem_flatMap.mpr ⟨expr, member, isCall⟩
  refine ⟨names, parts, defined, read, readIn, ?_⟩
  exact {
    resolves := fun _ _ _ _ _ _ => resolve_registered registered
    asWritten := fun expr member => invokes expr (List.mem_append_left _ member)
    aboveGroups := fun expr member =>
      invokes _ (List.mem_append_right _ (List.mem_map_of_mem member))
    leaves := fun _ _ _ _ => Expr.leavesCall_iff
    takes := by
      intro expr member path arguments function found outside known
      obtain ⟨_, _, exprCollected⟩ := collected expr member
      exact collects expr member _
        (Expr.aggregateCall_at? exprCollected outside found known).1
    inArguments := by
      intro expr member path arguments found inside
      obtain ⟨_, _, exprCollected⟩ := collected expr member
      obtain ⟨outer, inner, aggregateName, function, argument, split, around, known, within,
        isCall, computed⟩ := Expr.inArgument_of_not_outside exprCollected found inside
      exact ⟨outer, inner, aggregateName, function, argument, split, around, known, within,
        collects expr member _ isCall, computed⟩
    ordering := by
      intro position item key atItem atKey
      obtain ⟨-, -, -, keys⟩ := of_sortKeys hiddenNamed_nil sorted
      obtain ⟨written, planning, sorts⟩ := keys position item key atItem atKey
      exact ⟨written, planning, fun path arguments => sorts.call⟩ }

/-- `SELECT max(TRUE) WHERE max(TRUE)`, where a function `max` is registered: the condition
calls it, and the select list, which has the same text, does not. -/
theorem goesToRegistered_of_ofQuery_of_max :
    let largest : Callable := .scalar (.dynamic
      { name := "max", parameters := [.boolean], returnType := .boolean, arity := .fixed 1 }
      fun arguments => .ok (arguments.headD .null))
    let scope : FunctionScope := {
      registered := { entries := [("max", [largest])] }
      builtin := {}
      narrowing := .exact }
    let term : Syntax.Term := .call [⟨"max", none⟩] ⟨false, "(", ")"⟩ [.literal (.boolean true)]
    let select : Syntax.Select := {
      distinct := false
      items := [.bare term]
      sources := []
      condition := some term
      grouping := .terms []
      having := none }
    let query : Syntax.Query :=
      { body := .select select, order := [], limit := none, offset := none, spelling := "" }
    let call : Expr := .call "max" [.literal (.boolean true)]
    ∃ (plan : Plan) (analyzed : (Plan × Schema) × Nat) (parts : SelectParts),
      ofQuery (fun _ => []) query = .ok plan ∧
      plan.analyzeNode scope {} 0 = .ok analyzed ∧
      parts.input = .filter call .oneRow ∧ parts.part.exprs = [call] ∧
      Invokes scope analyzed.1.1 "max" [largest] call ∧
      ¬ call.LeavesCall parts.keys [] "max" ∧
      parts.Collects (Expr.aggregateCall .max [.literal (.boolean true)]) := by
  intro largest scope term select query call
  have planned : ofQuery (fun _ => []) query = .ok _ := rfl
  obtain ⟨_, parts, defined, read, -, goes⟩ :=
    goesToRegistered_of_ofQuery (fun _ => []) query select _ scope {} 0 _ "max" [largest] rfl
      rfl planned rfl
  have condition : parts.input = .filter call .oneRow := by
    cases read
    rfl
  have listed : parts.part.exprs = [call] := by
    cases read
    rfl
  have isListed : call ∈ parts.part.exprs := by rw [listed, List.mem_singleton]
  have isWritten : call ∈ parts.asWritten := by
    simp [SelectParts.asWritten, condition, Plan.exprs, Plan.ownExprs]
  refine ⟨_, _, parts, planned, rfl, condition, listed, goes.asWritten call isWritten, ?_,
    goes.takes call isListed [] _ .max rfl trivial rfl⟩
  intro leaves
  have unknown : AggregateFunction.ofName? "max" = none :=
    (goes.leaves call isListed [] _ rfl trivial).mp leaves
  cases unknown

end Plan

end ScalarSql
