import ScalarSql.Proofs.Plan.RespelledSelect

/-!
# Select clauses with the same matches

In three places a query compares expressions as they are spelled.  A part of an expression
over groups stands for a grouping key if it is equal to it; an aggregate call stands for the
computed aggregate of its text; and a sort key stands for a column of the select list if it
is equal to it.  Everywhere else names are looked up, and case makes no difference.

Two select clauses match alike if they have the same matches in these places,
`SelectParts.SameMatches`.  It is a statement about what was matched only: nothing in it
speaks of rows or of failure.

**Main result.**  Select clauses that are the same up to case and match alike have plans of
the same rows, `SelectParts.SameMatches.sameRows`.
-/

set_option autoImplicit false

namespace ScalarSql

namespace SelectParts

/-! ## What is matched -/

/-- The columns that are computed: those of the select list and the hidden ones. -/
def items (parts : SelectParts) : List NamedExpr := parts.part.columns ++ parts.part.hidden

/-- A named expression over the rows that are projected. -/
def itemOver (parts : SelectParts) (item : NamedExpr) : NamedExpr :=
  { item with expr := parts.overGroups item.expr }

/-- What a sort key reads if it is the name of a column: the expression of the first column
of that name over the rows that are projected, with all names in it small. -/
def reads? (parts : SelectParts) : Expr → Option Expr
  | .column name => NamedExpr.found? (parts.items.map parts.itemOver) name
  | _ => none

/-- Expressions of two select clauses that are the same up to case and refer to the groups in
the same way. -/
structure SameOver (left right : SelectParts) (expr other : Expr) : Prop where
  written : expr.Respelled other
  projected : (left.overGroups expr).Respelled (right.overGroups other)

/-- Grouping keys and sort keys match the same expressions of two select clauses. -/
structure SameMatches (left right : SelectParts) : Prop where
  /-- The select lists refer to the groups in the same way. -/
  columns : List.Forall₂ (fun item other : NamedExpr => SameOver left right item.expr other.expr)
    left.part.columns right.part.columns
  /-- The conditions on groups refer to the groups in the same way. -/
  having : List.Forall₂ (SameOver left right) left.part.having.toList right.part.having.toList
  /-- The same aggregates are computed, and the first of every name is the same. -/
  aggregates : SameAggregates left.aggregates right.aggregates
  /-- The same columns are computed, for the select list or for the order. -/
  computed : Covering (fun item other : NamedExpr => SameOver left right item.expr other.expr)
    left.items right.items
  /-- Sort keys read columns that are computed from the same expressions. -/
  sorting : List.Forall₂ (fun key other : SortKey => left.reads? key.expr = right.reads? other.expr)
    left.sorting right.sorting
  /-- The select list is read again by name in both queries or in none of them, or this makes
  no difference. -/
  again : (left.part.hidden = [] ↔ right.part.hidden = []) ∨ Plan.DistinctNames left.part.columns

/-! ## Expressions over groups -/

theorem above_eq (parts : SelectParts) :
    parts.above.columns = parts.part.columns.map parts.itemOver ∧
      parts.above.hidden = parts.part.hidden.map parts.itemOver := by
  refine List.append_inj (parts.projected_above.trans List.map_append) ?_
  have names := congrArg List.length parts.names_above
  rw [List.length_map, List.length_map] at names
  rw [names, List.length_map]

theorem having_above (parts : SelectParts) :
    parts.above.having = parts.part.having.map parts.overGroups := by
  cases grouped : parts.grouped with
  | true =>
      have meant : parts.overGroups = Expr.rewritten parts.keys := funext fun _ => if_pos grouped
      simp only [above, meant, grouped, if_true, rewritten, Plan.GroupedPart.overKeys,
        Plan.GroupedPart.withoutAggregates, Option.map_map]
      rfl
  | false =>
      have meant : parts.overGroups = id := funext fun expr => by
        rw [overGroups, grouped, if_neg Bool.false_ne_true, id_eq]
      have none : parts.part.having.toList.flatMap Expr.aggregateCalls = [] := by
        simp only [SelectParts.grouped, Plan.isGrouped, Bool.not_eq_false', Bool.and_eq_true,
          List.isEmpty_iff, Plan.GroupedPart.aggregateCalls, List.append_eq_nil_iff] at grouped
        exact grouped.2.2
      rw [above, grouped, if_neg Bool.false_ne_true, meant, Option.map_id]
      show parts.part.having.map Expr.withoutAggregates = _
      cases condition : parts.part.having with
      | none => rfl
      | some predicate =>
          rw [condition, Option.toList_some, List.flatMap_singleton] at none
          exact congrArg some (Expr.withoutAggregates_of_no_calls predicate none)

/-- The items over the rows that are projected. -/
theorem items_above (parts : SelectParts) :
    parts.above.columns ++ parts.above.hidden = parts.items.map parts.itemOver :=
  parts.projected_above

end SelectParts

namespace Plan

/-- Sort keys over a select list are names of columns. -/
theorem columns_of_readSelect {tableColumns : String → List String} {select : Syntax.Select}
    {order : List Syntax.OrderItem} {parts : SelectParts}
    (read : readSelect tableColumns select order = .ok parts) (listed : parts.part.columns ≠ []) :
    ∀ key ∈ parts.sorting, ∃ name, key.expr = .column name := by
  obtain ⟨scope, -, -, sorting⟩ := readIn_of_readSelect read
  obtain ⟨-, -, length, each⟩ := of_sortKeys hiddenNamed_nil sorting
  intro key member
  obtain ⟨position, atPosition⟩ := List.mem_iff_getElem?.mp member
  have bound : position < order.length := length ▸ (List.getElem?_eq_some_iff.mp atPosition).1
  obtain ⟨written, -, sorts⟩ :=
    each position _ key (List.getElem?_eq_getElem bound) atPosition
  generalize key.expr = expr at sorts
  cases sorts with
  | star none => exact absurd none listed
  | item column _ => exact ⟨_, rfl⟩
  | named name plain _ _ => exact ⟨name, rfl⟩
  | hidden column _ _ _ _ => exact ⟨_, rfl⟩

end Plan

theorem Session.Alike.filterBy {session : Session} {aligned : Prop}
    (ignores : session.scope.IgnoresCase) {left right : Plan}
    (input : session.Alike aligned left right) {condition other : Option Expr}
    (same : condition.map Expr.caseless = other.map Expr.caseless) :
    session.Alike aligned (Plan.filterBy condition left) (Plan.filterBy other right) := by
  cases condition with
  | none =>
      rw [Option.map_none, eq_comm, Option.map_eq_none_iff] at same
      rw [same]
      exact input
  | some predicate =>
      rw [Option.map_some, eq_comm, Option.map_eq_some_iff] at same
      obtain ⟨other, rfl, same⟩ := same
      exact input.filter ignores same.symm

namespace SelectParts.SameMatches

variable {left right : SelectParts} (same : left.SameMatches right)
  (respelled : left.Respelled right) {session : Session} (ignores : session.scope.IgnoresCase)

include same respelled

theorem grouped_eq : left.grouped = right.grouped := by
  have keys : left.keys = [] ↔ right.keys = [] := by
    have lengths := respelled.keys.length_eq
    rw [← List.length_eq_zero_iff, ← List.length_eq_zero_iff, lengths]
  have aggregates : left.aggregates = [] ↔ right.aggregates = [] := by
    constructor
    · intro none
      refine List.eq_nil_iff_forall_not_mem.mpr fun other member => ?_
      obtain ⟨one, inLeft, -⟩ := same.aggregates.covering.back other member
      rw [none] at inLeft
      cases inLeft
    · intro none
      refine List.eq_nil_iff_forall_not_mem.mpr fun one member => ?_
      obtain ⟨other, inRight, -⟩ := same.aggregates.covering.forth one member
      rw [none] at inRight
      cases inRight
  rw [Bool.eq_iff_iff, grouped_iff, grouped_iff, ne_eq, ne_eq, ne_eq, ne_eq, keys, aggregates]

omit respelled in
theorem having_above_eq : left.above.having.map Expr.caseless
    = right.above.having.map Expr.caseless := by
  have conditions := same.having
  rw [having_above, having_above, Option.map_map, Option.map_map]
  cases inLeft : left.part.having with
  | none =>
      rw [inLeft, Option.toList_none, List.forall₂_nil_left_iff, Option.toList_eq_nil_iff]
        at conditions
      rw [conditions]
      rfl
  | some predicate =>
      cases inRight : right.part.having with
      | none =>
          rw [inLeft, inRight] at conditions
          cases conditions
      | some other =>
          rw [inLeft, inRight, Option.toList_some, Option.toList_some, List.forall₂_cons]
            at conditions
          exact congrArg some conditions.1.projected

theorem columns_above : List.Forall₂ NamedExpr.Respelled left.above.columns
    right.above.columns := by
  rw [(above_eq left).1, (above_eq right).1, List.forall₂_map_left_iff,
    List.forall₂_map_right_iff]
  refine List.forall₂_iff_get.mpr ⟨respelled.columns.length_eq, fun i bound otherBound => ?_⟩
  exact ⟨(same.columns.get bound otherBound).projected,
    (respelled.columns.get bound otherBound).name⟩

include ignores

/-- The rows that are projected are alike; their columns are the same up to case unless they
are groups. -/
theorem alike_below : ∃ aligned, (left.grouped = false → aligned) ∧
    session.Alike aligned left.below right.below := by
  have input := respelled.input.alike ignores
  cases grouped : left.grouped with
  | false =>
      have otherwise : right.grouped = false := (same.grouped_eq respelled).symm.trans grouped
      refine ⟨True, fun _ => trivial, ?_⟩
      rw [below, below, grouped, otherwise, if_neg Bool.false_ne_true, if_neg Bool.false_ne_true]
      exact input
  | true =>
      have also : right.grouped = true := (same.grouped_eq respelled).symm.trans grouped
      refine ⟨False, fun impossible => Bool.noConfusion impossible, ?_⟩
      rw [below, below, grouped, also, if_pos rfl, if_pos rfl]
      exact input.aggregate ignores respelled.keys same.aggregates

/-- **The plans of respelled select clauses** that match alike have the same rows. -/
theorem sameRows (starred : left.part.columns = [] → left.part.hidden = [])
    (otherStarred : right.part.columns = [] → right.part.hidden = [])
    (columns : left.part.columns ≠ [] → ∀ key ∈ left.sorting, ∃ name, key.expr = .column name)
    (otherColumns : right.part.columns ≠ [] →
      ∀ key ∈ right.sorting, ∃ name, key.expr = .column name) :
    SucceedAlike session.SameRows (Plan.assemble left) (Plan.assemble right) := by
  have listed : left.part.columns = [] ↔ right.part.columns = [] := by
    rw [← List.length_eq_zero_iff, ← List.length_eq_zero_iff, respelled.columns.length_eq]
  have collects := Plan.alike_collectPart (same.computed.imp fun _ _ here => here.written)
    respelled.having
  refine (Plan.alike_assemble collects (same.grouped_eq respelled) listed).imp ?_
  rintro _ _ ⟨⟨rfl, notStar⟩, rfl⟩
  obtain ⟨aligned, ungrouped, below⟩ := same.alike_below respelled ignores
  have input := below.filterBy ignores same.having_above_eq
  by_cases star : left.part.columns = []
  · have otherStar := listed.mp star
    have plain : left.grouped = false := Bool.eq_false_iff.mpr fun grouped => notStar grouped star
    rw [eq_true (ungrouped plain)] at input
    refine input.starSorted ignores ⟨?_, ?_⟩ ⟨?_, ?_⟩ (respelled.star star)
    · rw [(above_eq left).1, star, List.map_nil]
    · rw [(above_eq left).2, starred star, List.map_nil]
    · rw [(above_eq right).1, otherStar, List.map_nil]
    · rw [(above_eq right).2, otherStarred otherStar, List.map_nil]
  · have computed : Covering NamedExpr.SameExpr (left.above.columns ++ left.above.hidden)
        (right.above.columns ++ right.above.hidden) := by
      rw [items_above, items_above]
      exact same.computed.map fun _ _ here => here.projected
    have sorting : List.Forall₂ (SortKey.SameColumn (left.above.columns ++ left.above.hidden)
        (right.above.columns ++ right.above.hidden)) left.sorting right.sorting := by
      refine List.forall₂_iff_get.mpr ⟨respelled.directions.length_eq, ?_⟩
      intro i bound otherBound
      obtain ⟨name, isName⟩ := columns star _ (List.get_mem left.sorting ⟨i, bound⟩)
      obtain ⟨other, isOther⟩ := otherColumns (fun otherStar => star (listed.mpr otherStar)) _
        (List.get_mem right.sorting ⟨i, otherBound⟩)
      have reads := same.sorting.get bound otherBound
      rw [isName, isOther] at reads
      refine ⟨respelled.directions.get bound otherBound, name, other, isName, isOther, ?_⟩
      rw [items_above, items_above]
      exact reads
    refine input.projectSorted ignores ?_ (same.columns_above respelled) computed sorting ?_
    · rw [(above_eq left).1]
      simpa using star
    · rw [hidden_above, hidden_above]
      refine same.again.imp_right fun distinct => ?_
      rw [(above_eq left).1]
      exact List.pairwise_map.mpr distinct

end SelectParts.SameMatches

end ScalarSql
