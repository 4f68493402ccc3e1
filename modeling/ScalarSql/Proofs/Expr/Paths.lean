import ScalarSql.Proofs.Plan.References

/-!
# Calls and where they stand

A path leads from an expression to a part of it: at every step it names one of the operands.
Paths tell apart the places at which one and the same call is written.

**Replacing.**  A part stays at its path unless a part around it, or the part itself, is
replaced, `Expr.replaced_or_kept`.

**Above a grouping** two replacements follow one another: calls of aggregate functions become
columns, and then parts that read like a grouping key do.  A call that stands outside the
arguments of aggregate calls is left as a call, if need be inside the key that it is part of,
exactly if its name is not that of an aggregate function, `Expr.leavesCall_iff`.  Which
functions are registered plays no role.

**In the arguments** of an aggregate call every call stays as it is written.  It stands in the
one argument that the aggregate is computed from, `Expr.inArgument_of_not_outside`.
-/

set_option autoImplicit false

namespace ScalarSql

namespace Expr

/-! ## Replacement by a function -/

theorem replaceAll_eq_map (replacement? : Expr → Option Expr) (arguments : List Expr) :
    replaceAll replacement? arguments = arguments.map (replace replacement?) := by
  induction arguments with
  | nil => rfl
  | cons first rest ih => rw [replaceAll, ih, List.map_cons]

/-- An expression is replaced as a whole, or else its operands are. -/
theorem replace_eq (replacement? : Expr → Option Expr) (expr : Expr) :
    expr.replace replacement?
      = (replacement? expr).getD (expr.mapOperands (replace replacement?)) := by
  rw [replace.eq_def]
  cases replacement? expr with
  | some result => rfl
  | none =>
      cases expr with
      | call name arguments | invocation function arguments =>
          exact congrArg _ (replaceAll_eq_map replacement? arguments)
      | _ => rfl

/-- The column of an aggregate call. -/
def aggregateColumn? : Expr → Option Expr
  | .call name arguments => (AggregateFunction.ofName? name).map fun function =>
      .column (aggregateCall function arguments).name
  | _ => none

theorem withoutAggregates_eq_replace (expr : Expr) :
    expr.withoutAggregates = expr.replace aggregateColumn? := by
  have ofArguments : ∀ arguments : List Expr,
      (∀ argument ∈ arguments, argument.withoutAggregates = argument.replace aggregateColumn?) →
        withoutAllAggregates arguments = replaceAll aggregateColumn? arguments := by
    intro arguments each
    induction arguments with
    | nil => rfl
    | cons first rest ih =>
        obtain ⟨here, later⟩ := List.forall_mem_cons.mp each
        rw [withoutAllAggregates, replaceAll, here, ih later]
  induction expr using inductionOn with
  | column _ | literal _ => rfl
  | binary op left right leftSame rightSame =>
      simp only [withoutAggregates, replace, aggregateColumn?, leftSame, rightSame]
  | not operand same | negate operand same | isNull operand same | isNotNull operand same
  | cast operand _ _ same | field operand _ same =>
      simp only [withoutAggregates, replace, aggregateColumn?, same]
  | call name arguments each =>
      simp only [withoutAggregates, replace, aggregateColumn?]
      cases AggregateFunction.ofName? name with
      | none => exact congrArg (Expr.call name) (ofArguments arguments each)
      | some function => rfl
  | invocation function arguments each =>
      simp only [withoutAggregates, replace, aggregateColumn?, ofArguments arguments each]

/-! ## Paths -/

/-- The part of an expression that a path of operand positions leads to. -/
def at? : List Nat → Expr → Option Expr
  | [], expr => some expr
  | index :: path, expr => expr.operands[index]?.bind (at? path)

theorem at?_append (outer inner : List Nat) (expr : Expr) :
    expr.at? (outer ++ inner) = (expr.at? outer).bind (at? inner) := by
  induction outer generalizing expr with
  | nil => rfl
  | cons index outer ih =>
      rw [List.cons_append, at?, at?, Option.bind_assoc]
      exact congrArg _ (funext ih)

theorem at?_of_append {outer inner : List Nat} {expr part : Expr}
    (found : expr.at? (outer ++ inner) = some part) :
    ∃ whole, expr.at? outer = some whole ∧ whole.at? inner = some part := by
  rw [at?_append] at found
  exact Option.bind_eq_some_iff.mp found

theorem mem_parts_of_at? {path : List Nat} {expr part : Expr}
    (found : expr.at? path = some part) : part ∈ expr.parts := by
  induction path generalizing expr with
  | nil =>
      cases found
      rw [parts_eq_cons]
      exact List.mem_cons_self
  | cons index path ih =>
      obtain ⟨operand, atIndex, found⟩ := Option.bind_eq_some_iff.mp found
      rw [parts_eq_cons]
      exact List.mem_cons_of_mem _
        (List.mem_flatMap.mpr ⟨operand, List.mem_of_getElem? atIndex, ih found⟩)

/-- No path leads into a column. -/
theorem eq_of_at?_column {path : List Nat} {name : String} {part : Expr}
    (found : (Expr.column name).at? path = some part) : part = .column name := by
  cases path with
  | nil => exact (Option.some.inj found).symm
  | cons index path => cases found

/-! ## Replacing -/

section Replacing

variable {replacement? : Expr → Option Expr}

/-- No part on the way along a path is replaced; its end may be. -/
def Untouched (replacement? : Expr → Option Expr) : List Nat → Expr → Prop
  | [], _ => True
  | index :: path, expr => replacement? expr = none ∧
      ∀ operand, expr.operands[index]? = some operand → Untouched replacement? path operand

theorem Untouched.of_append {outer inner : List Nat} {expr : Expr}
    (untouched : Untouched replacement? (outer ++ inner) expr) :
    Untouched replacement? outer expr := by
  induction outer generalizing expr with
  | nil => trivial
  | cons index outer ih =>
      exact ⟨untouched.1, fun operand atIndex => ih (untouched.2 operand atIndex)⟩

theorem at?_replace {path : List Nat} {expr : Expr}
    (untouched : Untouched replacement? path expr) :
    (expr.replace replacement?).at? path = (expr.at? path).map (replace replacement?) := by
  induction path generalizing expr with
  | nil => rfl
  | cons index path ih =>
      obtain ⟨here, below⟩ := untouched
      rw [replace_eq, here, Option.getD_none, at?, at?, operands_mapOperands, List.getElem?_map]
      cases atIndex : expr.operands[index]? with
      | none => rfl
      | some operand => exact ih (below operand atIndex)

/-- **The first replacement on the way to a part**, if there is one, is at the part itself or
at one around it. -/
theorem replaced_or_kept {path : List Nat} {expr part : Expr}
    (replacement? : Expr → Option Expr) (found : expr.at? path = some part) :
    (Untouched replacement? path expr ∧ replacement? part = none) ∨
      ∃ outer inner whole result, path = outer ++ inner ∧ Untouched replacement? outer expr ∧
        expr.at? outer = some whole ∧ whole.at? inner = some part ∧
        replacement? whole = some result := by
  induction path generalizing expr with
  | nil =>
      obtain rfl := Option.some.inj found
      cases replaced : replacement? expr with
      | none => exact .inl ⟨trivial, rfl⟩
      | some result => exact .inr ⟨[], [], expr, result, rfl, trivial, rfl, rfl, replaced⟩
  | cons index path ih =>
      cases replaced : replacement? expr with
      | some result =>
          exact .inr ⟨[], index :: path, expr, result, rfl, trivial, rfl, found, replaced⟩
      | none =>
          obtain ⟨operand, atIndex, found⟩ := Option.bind_eq_some_iff.mp found
          have only : ∀ other, expr.operands[index]? = some other → other = operand := by
            intro other atOther
            rw [atIndex] at atOther
            exact (Option.some.inj atOther).symm
          rcases ih found with ⟨untouched, kept⟩ |
            ⟨outer, inner, whole, result, rfl, untouched, wholeAt, partAt, result⟩
          · exact .inl ⟨⟨replaced, fun other atOther => only other atOther ▸ untouched⟩, kept⟩
          · refine .inr ⟨index :: outer, inner, whole, _, rfl,
              ⟨replaced, fun other atOther => only other atOther ▸ untouched⟩, ?_, partAt, result⟩
            rw [at?, atIndex]
            exact wholeAt

/-- If nothing is replaced, nothing changes. -/
theorem replace_eq_self (expr : Expr) (nothing : ∀ part, replacement? part = none) :
    expr.replace replacement? = expr := by
  induction expr using inductionOnOperands with
  | step expr ih =>
      rw [replace_eq, nothing, Option.getD_none, mapOperands_congr (g := id) ih, mapOperands_id]

end Replacing

/-! ## Parts of interchangeable expressions -/

theorem forall₂_of_sameAll {lefts rights : List Expr} (alike : sameAll lefts rights = true) :
    List.Forall₂ (fun first second => same first second = true) lefts rights := by
  induction lefts generalizing rights with
  | nil =>
      cases rights with
      | nil => exact .nil
      | cons _ _ => cases alike
  | cons first rest ih =>
      cases rights with
      | nil => cases alike
      | cons second others =>
          obtain ⟨here, later⟩ := Bool.and_eq_true_iff.mp alike
          exact .cons here (ih later)

/-- Expressions that are interchangeable are so operand by operand. -/
theorem forall₂_operands_of_same {left right : Expr} (alike : same left right = true) :
    List.Forall₂ (fun first second => same first second = true) left.operands right.operands := by
  cases left <;> cases right <;> simp only [same, Bool.and_eq_true, Bool.false_eq_true] at alike
  case binary.binary => exact .cons alike.1.2 (.cons alike.2 .nil)
  case not.not | negate.negate | isNull.isNull | isNotNull.isNotNull => exact .cons alike .nil
  case cast.cast => exact .cons alike.1.1 .nil
  case field.field => exact .cons alike.1 .nil
  case call.call => exact forall₂_of_sameAll alike.2
  case invocation.invocation => exact forall₂_of_sameAll alike.2
  case column.column | literal.literal => exact .nil

/-- **Interchangeable expressions** have interchangeable parts at the same paths. -/
theorem rel_at?_of_same {left right : Expr} (alike : same left right = true) (path : List Nat) :
    Option.Rel (fun first second => same first second = true) (left.at? path)
      (right.at? path) := by
  induction path generalizing left right with
  | nil => exact .some alike
  | cons index path ih =>
      have operands := forall₂_operands_of_same alike
      rw [at?, at?]
      by_cases inRange : index < left.operands.length
      · have alsoInRange : index < right.operands.length := operands.length_eq ▸ inRange
        rw [List.getElem?_eq_getElem inRange, List.getElem?_eq_getElem alsoInRange]
        exact ih (List.Forall₂.get operands inRange alsoInRange)
      · rw [List.getElem?_eq_none (Nat.le_of_not_lt inRange),
          List.getElem?_eq_none (operands.length_eq ▸ Nat.le_of_not_lt inRange)]
        exact .none

/-- A call is interchangeable with calls of the same name only. -/
theorem eq_call_of_same {left : Expr} {name : String} {arguments : List Expr}
    (alike : same left (.call name arguments) = true) : ∃ others, left = .call name others := by
  cases left with
  | call other others =>
      simp only [same, Bool.and_eq_true] at alike
      exact ⟨others, congrArg (Expr.call · others) (eq_of_beq alike.1)⟩
  | _ => cases alike

/-- Where an expression has a call, an interchangeable one has a call of the same name. -/
theorem call_at?_of_same {left right : Expr} {path : List Nat} {name : String}
    {arguments : List Expr} (alike : same left right = true)
    (found : right.at? path = some (.call name arguments)) :
    ∃ others, left.at? path = some (.call name others) := by
  have related := rel_at?_of_same alike path
  rw [found] at related
  cases other : left.at? path with
  | none =>
      rw [other] at related
      cases related
  | some part =>
      rw [other] at related
      cases related with
      | some alike =>
          obtain ⟨others, rfl⟩ := eq_call_of_same alike
          exact ⟨others, rfl⟩

/-! ## Calls above a grouping -/

/-- The part at a path does not stand in the arguments of a call of an aggregate function. -/
def OutsideAggregates (path : List Nat) (expr : Expr) : Prop :=
  Untouched aggregateColumn? path expr

theorem at?_withoutAggregates {path : List Nat} {expr : Expr}
    (outside : expr.OutsideAggregates path) :
    expr.withoutAggregates.at? path = (expr.at? path).map withoutAggregates := by
  rw [funext withoutAggregates_eq_replace]
  exact at?_replace outside

theorem keyColumn?_eq_some {keys : List NamedExpr} {expr result : Expr}
    (found : keyColumn? keys expr = some result) :
    ∃ key ∈ keys, same key.expr expr = true ∧ result = .column key.name := by
  obtain ⟨key, first, rfl⟩ := Option.map_eq_some_iff.mp found
  exact ⟨key, List.mem_of_find?_eq_some first,
    List.find?_some (p := fun key => same (NamedExpr.expr key) expr) first, rfl⟩

/-- What planning leaves of a call at a path of an expression above a grouping. -/
inductive LeavesCall (keys : List NamedExpr) (expr : Expr) (path : List Nat) (name : String) :
    Prop where
  /-- The call stays where it is. -/
  | stays {arguments : List Expr}
      (call : (expr.rewritten keys).at? path = some (.call name arguments))
  /-- The call, or a part around it, reads like a grouping key, and refers to the column of
  the key; the key has the call at the rest of the path. -/
  | keyed {outer inner : List Nat} {whole : Expr} {key : NamedExpr} {arguments : List Expr}
      (split : path = outer ++ inner) (around : expr.at? outer = some whole)
      (isKey : key ∈ keys) (reads : same key.expr whole.withoutAggregates = true)
      (refers : (expr.rewritten keys).at? outer = some (.column key.name))
      (call : key.expr.at? inner = some (.call name arguments))

section Leaves

variable {keys : List NamedExpr} {expr : Expr} {path : List Nat} {name : String}
  {arguments : List Expr}

/-- **A call of any other name** is left as a call. -/
theorem leavesCall_of_ordinary (found : expr.at? path = some (.call name arguments))
    (outside : expr.OutsideAggregates path)
    (ordinary : AggregateFunction.ofName? name = none) : LeavesCall keys expr path name := by
  have bare : expr.withoutAggregates.at? path
      = some (.call name (withoutAllAggregates arguments)) := by
    rw [at?_withoutAggregates outside, found]
    simp only [Option.map_some, withoutAggregates, ordinary]
  rcases replaced_or_kept (keyColumn? keys) bare with ⟨untouched, kept⟩ |
    ⟨outer, inner, whole, result, rfl, untouched, wholeAt, partAt, replaced⟩
  · have call : (expr.rewritten keys).at? path
        = some (.call name ((withoutAllAggregates arguments).map (replace (keyColumn? keys)))) := by
      rw [rewritten, at?_replace untouched, bare, Option.map_some, replace_eq, kept]
      rfl
    exact .stays call
  · obtain ⟨written, writtenAt, -⟩ := at?_of_append found
    have same : whole = written.withoutAggregates := by
      rw [at?_withoutAggregates outside.of_append, writtenAt] at wholeAt
      exact (Option.some.inj wholeAt).symm
    obtain ⟨key, isKey, reads, rfl⟩ := keyColumn?_eq_some replaced
    obtain ⟨others, call⟩ := call_at?_of_same reads partAt
    refine .keyed rfl writtenAt isKey (same ▸ reads) ?_ call
    rw [rewritten, at?_replace untouched, wholeAt, Option.map_some, replace_eq, replaced]
    rfl

/-- **A call of an aggregate function** is not left as a call: a column stands in its place or
in the place of a part around it. -/
theorem not_leavesCall_of_aggregate {function : AggregateFunction}
    (found : expr.at? path = some (.call name arguments)) (outside : expr.OutsideAggregates path)
    (known : AggregateFunction.ofName? name = some function) :
    ¬ LeavesCall keys expr path name := by
  have column : expr.withoutAggregates.at? path
      = some (.column (aggregateCall function arguments).name) := by
    rw [at?_withoutAggregates outside, found]
    simp only [Option.map_some, withoutAggregates, known]
  intro leaves
  cases leaves with
  | stays call =>
      rcases replaced_or_kept (keyColumn? keys) column with ⟨untouched, kept⟩ |
        ⟨outer, inner, whole, result, rfl, untouched, wholeAt, -, replaced⟩
      · rw [rewritten, at?_replace untouched, column, Option.map_some, replace_eq, kept] at call
        cases call
      · obtain ⟨key, -, -, rfl⟩ := keyColumn?_eq_some replaced
        rw [rewritten, at?_append, at?_replace untouched, wholeAt, Option.map_some, replace_eq,
          replaced] at call
        cases eq_of_at?_column call
  | @keyed outer inner whole key others split around isKey reads refers call =>
      subst split
      have wholeColumn : whole.withoutAggregates.at? inner
          = some (.column (aggregateCall function arguments).name) := by
        rwa [at?_append, at?_withoutAggregates outside.of_append, around] at column
      have related := rel_at?_of_same reads inner
      rw [call, wholeColumn] at related
      cases related with
      | some alike => cases alike

/-- **Which calls are left** above a grouping, outside the arguments of aggregate calls: those
whose name is not that of an aggregate function. -/
theorem leavesCall_iff (found : expr.at? path = some (.call name arguments))
    (outside : expr.OutsideAggregates path) :
    LeavesCall keys expr path name ↔ AggregateFunction.ofName? name = none := by
  refine ⟨fun leaves => ?_, leavesCall_of_ordinary found outside⟩
  cases known : AggregateFunction.ofName? name with
  | none => rfl
  | some function => exact absurd leaves (not_leavesCall_of_aggregate found outside known)

end Leaves

/-! ## Arguments of aggregate calls -/

theorem aggregateCallsOfAll_eq_flatMap (arguments : List Expr) :
    aggregateCallsOfAll arguments = arguments.flatMap aggregateCalls := by
  induction arguments with
  | nil => rfl
  | cons first rest ih => rw [aggregateCallsOfAll, ih, List.flatMap_cons]

/-- The aggregate calls of an expression that is none itself are those of its operands. -/
theorem aggregateCalls_eq_flatMap {expr : Expr} (ordinary : expr.aggregateColumn? = none) :
    expr.aggregateCalls = expr.operands.flatMap aggregateCalls := by
  cases expr with
  | call name arguments =>
      have unknown : AggregateFunction.ofName? name = none := by
        simpa [aggregateColumn?] using ordinary
      simp only [aggregateCalls, unknown, operands, aggregateCallsOfAll_eq_flatMap]
  | _ => simp [aggregateCalls, operands, aggregateCallsOfAll_eq_flatMap]

theorem collected_of_argument {arguments : List Expr} {argument : Expr}
    {aggregates : List Aggregate} {outcome : List Expr × List Aggregate}
    (collected : collectAllAggregates arguments aggregates = .ok outcome)
    (member : argument ∈ arguments) :
    ∃ before after, argument.collectAggregates before = .ok after := by
  induction arguments generalizing aggregates outcome with
  | nil => cases member
  | cons first rest ih =>
      simp only [collectAllAggregates, state_bind_eq_ok] at collected
      obtain ⟨_, _, firstCollected, _, _, restCollected, -⟩ := collected
      rcases List.mem_cons.mp member with rfl | later
      · exact ⟨_, _, firstCollected⟩
      · exact ih restCollected later

/-- Collecting the aggregates of an expression that is none itself goes through its
operands. -/
theorem collected_of_operand {expr operand : Expr} {aggregates : List Aggregate}
    {outcome : Expr × List Aggregate} (collected : expr.collectAggregates aggregates = .ok outcome)
    (ordinary : expr.aggregateColumn? = none) (member : operand ∈ expr.operands) :
    ∃ before after, operand.collectAggregates before = .ok after := by
  obtain ⟨result, after⟩ := outcome
  cases expr with
  | column _ | literal _ => cases member
  | binary op left right =>
      simp only [Expr.collectAggregates, state_bind_eq_ok] at collected
      obtain ⟨_, _, leftCollected, _, _, rightCollected, -⟩ := collected
      rcases List.mem_cons.mp member with rfl | isRight
      · exact ⟨_, _, leftCollected⟩
      · cases List.mem_singleton.mp isRight
        exact ⟨_, _, rightCollected⟩
  | not inner | negate inner | isNull inner | isNotNull inner =>
      cases List.mem_singleton.mp member
      simp only [Expr.collectAggregates, state_map_eq_ok] at collected
      obtain ⟨_, innerCollected, -⟩ := collected
      exact ⟨_, _, innerCollected⟩
  | cast inner _ _ | field inner _ =>
      cases List.mem_singleton.mp member
      simp only [Expr.collectAggregates, state_bind_eq_ok] at collected
      obtain ⟨_, _, innerCollected, -⟩ := collected
      exact ⟨_, _, innerCollected⟩
  | call name arguments =>
      have unknown : AggregateFunction.ofName? name = none := by
        simpa [aggregateColumn?] using ordinary
      simp only [Expr.collectAggregates, unknown, state_map_eq_ok] at collected
      obtain ⟨_, argumentsCollected, -⟩ := collected
      exact collected_of_argument argumentsCollected member
  | invocation function arguments =>
      simp only [Expr.collectAggregates, state_map_eq_ok] at collected
      obtain ⟨_, argumentsCollected, -⟩ := collected
      exact collected_of_argument argumentsCollected member

/-- **An aggregate call that no other one is around** is collected, and so its arguments are
accepted. -/
theorem aggregateCall_at? {path : List Nat} {expr : Expr} {name : String}
    {arguments : List Expr} {function : AggregateFunction} {aggregates : List Aggregate}
    {outcome : Expr × List Aggregate} (collected : expr.collectAggregates aggregates = .ok outcome)
    (outside : expr.OutsideAggregates path)
    (found : expr.at? path = some (.call name arguments))
    (known : AggregateFunction.ofName? name = some function) :
    aggregateCall function arguments ∈ expr.aggregateCalls ∧
      ∃ argument, aggregateArgument function arguments = .ok argument := by
  induction path generalizing expr aggregates outcome with
  | nil =>
      cases found
      simp only [Expr.collectAggregates, known, collectAggregate, state_bind_eq_ok,
        state_lift_eq_ok] at collected
      obtain ⟨argument, _, ⟨accepted, -⟩, -⟩ := collected
      refine ⟨?_, argument, accepted⟩
      simp only [aggregateCalls, known, List.mem_singleton]
  | cons index path ih =>
      obtain ⟨ordinary, below⟩ := outside
      obtain ⟨operand, atIndex, found⟩ := Option.bind_eq_some_iff.mp found
      have isOperand := List.mem_of_getElem? atIndex
      obtain ⟨_, _, operandCollected⟩ := collected_of_operand collected ordinary isOperand
      obtain ⟨member, accepted⟩ := ih operandCollected (below operand atIndex) found
      rw [aggregateCalls_eq_flatMap ordinary]
      exact ⟨List.mem_flatMap.mpr ⟨operand, isOperand, member⟩, accepted⟩

/-- An aggregate call has at most one argument, which it is computed from unless it is a
star. -/
theorem eq_of_aggregateArgument {function : AggregateFunction} {arguments : List Expr}
    {argument operand : Expr} {index : Nat}
    (accepted : aggregateArgument function arguments = .ok argument)
    (atIndex : arguments[index]? = some operand) :
    index = 0 ∧ (operand = .column "*" ∨ operand = argument ∧ arguments = [argument]) := by
  unfold aggregateArgument at accepted
  split at accepted
  · cases atIndex
  · cases index with
    | zero => exact ⟨rfl, .inl (Option.some.inj atIndex).symm⟩
    | succ index => cases atIndex
  · cases accepted
    cases index with
    | zero => exact ⟨rfl, .inr ⟨(Option.some.inj atIndex).symm, rfl⟩⟩
    | succ index => cases atIndex
  · cases accepted

/-- **A call in the arguments of an aggregate call** stands in its only argument. -/
theorem inArgument_of_not_outside {path : List Nat} {expr : Expr} {name : String}
    {arguments : List Expr} {aggregates : List Aggregate} {outcome : Expr × List Aggregate}
    (collected : expr.collectAggregates aggregates = .ok outcome)
    (found : expr.at? path = some (.call name arguments))
    (inside : ¬ expr.OutsideAggregates path) :
    ∃ outer inner aggregateName function argument, path = outer ++ 0 :: inner ∧
      expr.at? outer = some (.call aggregateName [argument]) ∧
      AggregateFunction.ofName? aggregateName = some function ∧
      argument.at? inner = some (.call name arguments) ∧
      aggregateCall function [argument] ∈ expr.aggregateCalls ∧
      (aggregateCall function [argument]).expr = argument := by
  rcases replaced_or_kept aggregateColumn? found with ⟨outside, -⟩ |
    ⟨outer, inner, whole, column, rfl, outside, wholeAt, partAt, replaced⟩
  · exact absurd outside inside
  · cases whole with
    | call aggregateName others =>
        obtain ⟨function, known, -⟩ := Option.map_eq_some_iff.mp replaced
        obtain ⟨isCall, argument, accepted⟩ := aggregateCall_at? collected outside wholeAt known
        cases inner with
        | nil =>
            rw [List.append_nil] at inside
            exact absurd outside inside
        | cons index inner =>
            obtain ⟨operand, atIndex, inOperand⟩ := Option.bind_eq_some_iff.mp partAt
            obtain ⟨rfl, rfl | ⟨rfl, rfl⟩⟩ := eq_of_aggregateArgument accepted atIndex
            · cases eq_of_at?_column inOperand
            · refine ⟨outer, inner, aggregateName, function, operand, rfl, wholeAt, known,
                inOperand, isCall, ?_⟩
              rw [aggregateCall, accepted]
              rfl
    | _ => cases replaced

end Expr

end ScalarSql
