import ScalarSql.Proofs.Expr.Respelling
import ScalarSql.Proofs.Plan.Rows
import ScalarSql.Proofs.Session

/-!
# Operators over respelled expressions

Two plans are alike if both are analyzed or neither is, and if both are executed with rows
that match one by one, or neither, `Session.Alike`.  Scans, filters, projections and sorts
whose expressions are respelled keep plans alike.

**Columns.**  Above a projection the columns of both plans stand in one order and have names
that are the same up to case.  Above a grouping this need not hold, as two groupings may
compute the same aggregates in another order.  `Session.Alike` therefore says of its rows
only that every name reads the same value in both, and its parameter tells whether the
columns are also aligned.
-/

set_option autoImplicit false

namespace ScalarSql

open Text (small)

/-! ## Columns and rows -/

/-- Two columns of one type whose names differ in case only. -/
structure Column.Respelled (left right : Column) : Prop where
  name : small left.name = small right.name
  type : left.type = right.type

/-- Two expressions up to case, under names up to case. -/
structure NamedExpr.Respelled (left right : NamedExpr) : Prop where
  expr : left.expr.Respelled right.expr
  name : small left.name = small right.name

/-- Two keys of one direction that are sorted by the same up to case. -/
structure SortKey.Respelled (left right : SortKey) : Prop extends
    SortKey.SameDirection left right where
  expr : left.expr.Respelled right.expr

/-- The columns of two schemas are the same up to case, one by one. -/
def Schema.Aligned (first second : Schema) : Prop :=
  List.Forall₂ Column.Respelled first.columns second.columns

/-- Two rows that hold the same values under all names. -/
def Row.Matches (first second : Schema) (left right : Row) : Prop :=
  ∀ name, (first.indexOf? name).bind (left[·]?) = (second.indexOf? name).bind (right[·]?)

theorem Row.Matches.refl (schema : Schema) (row : Row) : Row.Matches schema schema row row :=
  fun _ => rfl

theorem Row.Matches.context {first second : Schema} {left right : Row}
    (alike : Row.Matches first second left right) (policy : FailurePolicy) (index : Nat) :
    RowContext.Matches { schema := first, policy, row := left, index }
      { schema := second, policy, row := right, index } :=
  ⟨rfl, rfl, alike⟩

theorem forall₂_map {α β γ δ : Type} {related : α → β → Prop} {next : γ → δ → Prop} {f : α → γ}
    {g : β → δ} {lefts : List α} {rights : List β} (items : List.Forall₂ related lefts rights)
    (maps : ∀ left right, related left right → next (f left) (g right)) :
    List.Forall₂ next (lefts.map f) (rights.map g) :=
  List.forall₂_map_left_iff.mpr (List.forall₂_map_right_iff.mpr (items.imp maps))

section Aligned

variable {first second : Schema} (aligned : first.Aligned second)

include aligned

theorem Schema.Aligned.indexOf? (name : String) : first.indexOf? name = second.indexOf? name := by
  unfold Schema.Aligned at aligned
  unfold Schema.indexOf?
  generalize first.columns = left, second.columns = right at aligned
  induction aligned with
  | nil => rfl
  | cons here _ ih =>
      rw [List.findIdx?_cons, List.findIdx?_cons, ih, Text.sameName_congr_left here.name]

theorem Schema.Aligned.types (name : String) :
    (first.column? name).map Column.type = (second.column? name).map Column.type := by
  unfold Schema.Aligned at aligned
  unfold Schema.column?
  generalize first.columns = left, second.columns = right at aligned
  induction aligned with
  | nil => rfl
  | cons here _ ih =>
      rw [List.find?_cons, List.find?_cons, Text.sameName_congr_left here.name]
      split
      · exact congrArg some here.type
      · exact ih

theorem Row.matches_of_aligned (row : Row) : Row.Matches first second row row := by
  intro name
  rw [aligned.indexOf?]

end Aligned

/-! ## Outcomes of plans -/

/-- Two tables under whose names the same is found, row by row.  If they are `aligned`, their
columns are the same up to case and their rows are the same. -/
structure Schema.Matching (aligned : Prop) (left right : Schema × List Row) : Prop where
  schemas : left.1.Matches right.1
  rows : List.Forall₂ (Row.Matches left.1 right.1) left.2 right.2
  aligned : aligned → left.1.Aligned right.1 ∧ left.2 = right.2

theorem Schema.Matching.of_aligned {aligned : Prop} {left right : Schema × List Row}
    (schemas : left.1.Aligned right.1)
    (qualifiers : ∀ name, left.1.isQualifier name = right.1.isQualifier name)
    (rows : left.2 = right.2) : Schema.Matching aligned left right where
  schemas := ⟨schemas.types, qualifiers⟩
  rows := by
    rw [← rows]
    exact List.forall₂_same.mpr fun row _ => Row.matches_of_aligned schemas row
  aligned _ := ⟨schemas, rows⟩

namespace Session

variable {session : Session}

theorem respelled_rewriting {left right : Expr} (same : left.Respelled right) :
    (session.rewriting left).Respelled (session.rewriting right) := by
  unfold rewriting
  split
  · exact same
  · rw [Expr.Respelled, Expr.settled, Expr.settled, Expr.caseless_normalize, Expr.caseless_fold,
      same, Expr.caseless_normalize, Expr.caseless_fold]

/-- The columns and rows of an analysed plan, once its expressions are rewritten. -/
def rowsOf (session : Session) (analyzed : Plan) : Except Error (Schema × List Row) :=
  (analyzed.mapExprs session.rewriting).rowsFrom session.catalog.source session.config.onError

/-- Both plans are rejected, or both are accepted with columns under which the same is found
and end alike, with matching tables. -/
def Alike (session : Session) (aligned : Prop) (left right : Plan) : Prop :=
  RunAlike (fun first second : Plan × Schema =>
      first.2.Matches second.2 ∧ (aligned → first.2.Aligned second.2) ∧
        SucceedAlike (Schema.Matching aligned) (session.rowsOf first.1) (session.rowsOf second.1))
    (left.analyzeNode session.scope session.catalog)
    (right.analyzeNode session.scope session.catalog)

/-! ## Tables -/

theorem alike_oneRow (aligned : Prop) : session.Alike aligned .oneRow .oneRow :=
  .pure ⟨.refl _, fun _ => .nil, .ok _ _ (.of_aligned .nil (fun _ => rfl) rfl)⟩

/-- A table is the same under an alias in any case. -/
theorem alike_scan (aligned : Prop) (table : String) {left right : Option String}
    (same : left.map small = right.map small) :
    session.Alike aligned (.scan table left) (.scan table right) := by
  have qualifiers : ∀ (columns : List Column) (name : String),
      Schema.isQualifier { columns, qualifiers := table :: left.toList } name
        = Schema.isQualifier { columns, qualifiers := table :: right.toList } name := by
    intro columns name
    cases left <;> cases right <;> simp only [Option.map_none, Option.map_some, reduceCtorEq,
      Option.some.injEq] at same
    · rfl
    · next left right =>
        simp only [Schema.isQualifier, Option.toList_some, List.any_cons,
          Text.sameName_congr_left same]
  have aligned : ∀ columns : List Column, Schema.Aligned
      { columns, qualifiers := table :: left.toList }
      { columns, qualifiers := table :: right.toList } :=
    fun columns => List.forall₂_same.mpr fun _ _ => ⟨rfl, rfl⟩
  unfold Alike
  simp only [Plan.analyzeNode, Catalog.scanSchema]
  cases found : session.catalog.table table with
  | error fault => exact fun _ _ => .error fault fault
  | ok stored =>
      refine .pure ⟨⟨(aligned stored.columns).types, qualifiers stored.columns⟩,
        fun _ => aligned stored.columns, ?_⟩
      have rows : SucceedAlike Eq
          ((Batch.storedRows stored.batches).mapM fun cells => Batch.readRow cells.1 cells.2)
          ((Batch.storedRows stored.batches).mapM fun cells => Batch.readRow cells.1 cells.2) :=
        .refl _
      simp only [rowsOf, Plan.mapExprs, Plan.rowsFrom, Catalog.source, Catalog.scanSchema, found]
      refine rows.bind ?_
      rintro rows _ rfl
      exact .ok _ _ (.of_aligned (aligned stored.columns) (qualifiers stored.columns) rfl)

/-! ## Filters -/

theorem alike_holds {context other : RowContext} (alike : context.Matches other)
    {left right : Expr} (same : left.Respelled right) :
    SucceedAlike Eq (left.holds context) (right.holds other) := by
  unfold Expr.holds
  refine (Expr.evaluate_congr_caseless alike same).elim (fun value _ equal => ?_)
    fun _ _ => .error _ _
  subst equal
  exact .refl _

theorem alike_mapRows {α β : Type} {related : Row → Row → Prop} {next : α → β → Prop}
    {f : Row → Nat → Except Error α} {g : Row → Nat → Except Error β} {lefts rights : List Row}
    (rows : List.Forall₂ related lefts rights)
    (each : ∀ left right index, related left right →
      SucceedAlike next (f left index) (g right index)) (index : Nat) :
    SucceedAlike (List.Forall₂ next) (mapRows f index lefts) (mapRows g index rights) := by
  induction rows generalizing index with
  | nil => exact .ok [] [] .nil
  | cons here _ ih =>
      rw [mapRows_cons, mapRows_cons]
      refine (each _ _ index here).bind fun value other first =>
        (ih (index + 1)).bind fun values others rest => ?_
      exact .ok _ _ (.cons first rest)

theorem forall₂_markedRows {related : Row → Row → Prop} {lefts rights : List Row}
    (rows : List.Forall₂ related lefts rights) (marks : List Bool) :
    List.Forall₂ related (markedRows lefts marks) (markedRows rights marks) := by
  induction rows generalizing marks with
  | nil => exact .nil
  | cons here _ ih =>
      cases marks with
      | nil => exact .nil
      | cons mark marks =>
          have rest := ih marks
          cases mark with
          | false => exact rest
          | true => exact .cons here rest

/-- **A filter by a respelled predicate.** -/
theorem Alike.filter {aligned : Prop} (ignores : session.scope.IgnoresCase)
    {left right : Plan} (input : session.Alike aligned left right) {predicate other : Expr}
    (same : predicate.Respelled other) :
    session.Alike aligned (.filter predicate left) (.filter other right) := by
  unfold Alike
  simp only [Plan.analyzeNode]
  refine input.bind ?_
  rintro ⟨analyzed, first⟩ ⟨otherAnalyzed, second⟩ ⟨schemas, columns, outcomes⟩
  refine (Expr.resolve_congr ignores schemas same).bind fun resolved otherResolved respelled => ?_
  refine (RunAlike.lift (Expr.dataType_congr schemas respelled)).bind fun type _ sameType => ?_
  subst sameType
  have checked : SucceedAlike (fun _ _ => True)
      (Plan.checkPredicate (Plan.filterClause left) type)
      (Plan.checkPredicate (Plan.filterClause right) type) := by
    unfold Plan.checkPredicate
    split
    · exact .ok _ _ trivial
    · exact .error _ _
  refine (RunAlike.lift checked).bind fun _ _ _ => .pure ⟨schemas, columns, ?_⟩
  refine outcomes.bind ?_
  rintro ⟨first, rows⟩ ⟨second, others⟩ ⟨schemas, matching, whole⟩
  refine (alike_mapRows matching (fun row other index here =>
    alike_holds (here.context session.config.onError index) (respelled_rewriting respelled))
    0).bind fun marks others sameMarks => ?_
  rw [List.forall₂_eq_eq_eq] at sameMarks
  subst sameMarks
  refine .ok _ _ ⟨schemas, forall₂_markedRows matching marks, fun wanted => ?_⟩
  obtain ⟨columns, rows⟩ := whole wanted
  exact ⟨columns, congrArg (markedRows · marks) rows⟩

/-! ## Projections -/

theorem forall₂_allColumns {first second : Schema} (aligned : first.Aligned second) :
    List.Forall₂ NamedExpr.Respelled (Plan.allColumns first) (Plan.allColumns second) := by
  refine forall₂_map aligned fun left right same => ⟨?_, same.name⟩
  rw [Expr.Respelled, Expr.caseless_column, Expr.caseless_column, same.name]

/-- Named expressions are resolved alike, with columns of the same types. -/
theorem alike_resolveNamed {scope : FunctionScope} (ignores : scope.IgnoresCase)
    {first second : Schema} (schemas : first.Matches second) {lefts rights : List NamedExpr}
    (same : List.Forall₂ NamedExpr.Respelled lefts rights) :
    RunAlike (fun left right : List NamedExpr × List Column =>
        List.Forall₂ NamedExpr.Respelled left.1 right.1 ∧
          List.Forall₂ Column.Respelled left.2 right.2)
      (Plan.resolveNamed scope first lefts) (Plan.resolveNamed scope second rights) := by
  induction same with
  | nil => exact .pure ⟨.nil, .nil⟩
  | cons here _ ih =>
      simp only [Plan.resolveNamed]
      refine (Expr.resolve_congr ignores schemas here.expr).bind fun expr other respelled => ?_
      refine (RunAlike.lift (Expr.dataType_congr schemas respelled)).bind fun type _ sameType => ?_
      refine ih.bind fun resolved others rest => .pure ?_
      exact ⟨.cons ⟨respelled, here.name⟩ rest.1, .cons ⟨here.name, sameType⟩ rest.2⟩

theorem alike_evaluateAll {context other : RowContext} (alike : context.Matches other)
    {lefts rights : List Expr} (same : List.Forall₂ Expr.Respelled lefts rights) :
    SucceedAlike Eq (Expr.evaluateAll context lefts) (Expr.evaluateAll other rights) := by
  induction same with
  | nil => exact .refl _
  | cons here _ ih =>
      simp only [Expr.evaluateAll]
      refine (Expr.evaluate_congr_caseless alike here).elim (fun value _ equal => ?_)
        fun _ _ => .error _ _
      subst equal
      refine ih.elim (fun values _ equal => ?_) fun _ _ => .error _ _
      subst equal
      exact .refl _

theorem alike_columns {first second : Schema} (schemas : first.Matches second)
    {lefts rights : List NamedExpr} (same : List.Forall₂ NamedExpr.Respelled lefts rights) :
    SucceedAlike (List.Forall₂ Column.Respelled) (NamedExpr.columns first lefts)
      (NamedExpr.columns second rights) := by
  induction same with
  | nil => exact .ok [] [] .nil
  | cons here _ ih =>
      simp only [NamedExpr.columns]
      refine (Expr.dataType_congr schemas here.expr).elim (fun type _ sameType => ?_)
        fun _ _ => .error _ _
      exact ih.map fun _ _ rest => .cons ⟨here.name, sameType⟩ rest

variable (session) in
theorem forall₂_rewriting {lefts rights : List NamedExpr}
    (same : List.Forall₂ NamedExpr.Respelled lefts rights) :
    List.Forall₂ NamedExpr.Respelled
      (lefts.map fun item => { item with expr := session.rewriting item.expr })
      (rights.map fun item => { item with expr := session.rewriting item.expr }) :=
  forall₂_map same fun _ _ here => ⟨respelled_rewriting here.expr, here.name⟩

theorem eq_of_forall₂ {α : Type} {lefts rights : List α} (same : List.Forall₂ Eq lefts rights) :
    lefts = rights :=
  List.forall₂_eq_eq_eq ▸ same

/-- **A projection of respelled expressions** has the same rows.  A star needs an input
with the same columns. -/
theorem Alike.project {aligned : Prop} (ignores : session.scope.IgnoresCase)
    {left right : Plan} (input : session.Alike aligned left right)
    {lefts rights : List NamedExpr} (same : List.Forall₂ NamedExpr.Respelled lefts rights)
    (star : lefts = [] → aligned) :
    session.Alike True (.project lefts left) (.project rights right) := by
  unfold Alike
  simp only [Plan.analyzeNode]
  refine input.bind ?_
  rintro ⟨analyzed, first⟩ ⟨otherAnalyzed, second⟩ ⟨schemas, columns, outcomes⟩
  have written : List.Forall₂ NamedExpr.Respelled
      (if lefts.isEmpty then Plan.allColumns first else lefts)
      (if rights.isEmpty then Plan.allColumns second else rights) := by
    cases same with
    | nil => exact forall₂_allColumns (columns (star rfl))
    | cons here rest => exact .cons here rest
  refine (alike_resolveNamed ignores schemas written).bind ?_
  rintro ⟨items, produced⟩ ⟨others, otherProduced⟩ ⟨respelled, sameColumns⟩
  refine .pure ⟨⟨Schema.Aligned.types sameColumns, fun _ => rfl⟩, fun _ => sameColumns, ?_⟩
  refine outcomes.bind ?_
  rintro ⟨first, rows⟩ ⟨second, others⟩ ⟨schemas, matching, -⟩
  have rewritten := forall₂_rewriting session respelled
  refine (alike_columns schemas rewritten).bind fun columns otherColumns sameColumns => ?_
  refine (alike_mapRows matching (fun row other index here =>
    alike_evaluateAll (here.context session.config.onError index)
      (forall₂_map rewritten fun _ _ here => here.expr)) 0).bind fun values others sameValues => ?_
  exact .ok _ _ (.of_aligned sameColumns (fun _ => rfl) (eq_of_forall₂ sameValues))

/-! ## Sorting -/

theorem alike_resolveKeys {scope : FunctionScope} (ignores : scope.IgnoresCase)
    {first second : Schema} (schemas : first.Matches second) {lefts rights : List SortKey}
    (same : List.Forall₂ SortKey.Respelled lefts rights) :
    RunAlike (List.Forall₂ SortKey.Respelled) (Plan.resolveKeys scope first lefts)
      (Plan.resolveKeys scope second rights) := by
  induction same with
  | nil => exact .pure .nil
  | cons here _ ih =>
      simp only [Plan.resolveKeys]
      refine (Expr.resolve_congr ignores schemas here.expr).bind fun expr other respelled => ?_
      refine ih.bind fun keys others rest => .pure (.cons ?_ rest)
      exact ⟨⟨here.ascending, here.nullsFirst⟩, respelled⟩

/-- **A sort by respelled keys** of the same rows. -/
theorem Alike.sort (ignores : session.scope.IgnoresCase) {left right : Plan}
    (input : session.Alike True left right) {keys others : List SortKey}
    (same : List.Forall₂ SortKey.Respelled keys others) :
    session.Alike True (.sort keys left) (.sort others right) := by
  unfold Alike
  simp only [Plan.analyzeNode]
  refine input.bind ?_
  rintro ⟨analyzed, first⟩ ⟨otherAnalyzed, second⟩ ⟨schemas, columns, outcomes⟩
  refine (alike_resolveKeys ignores schemas same).bind fun keys others respelled => .pure ?_
  have rewritten : List.Forall₂ SortKey.Respelled
      (keys.map fun key => { key with expr := session.rewriting key.expr })
      (others.map fun key => { key with expr := session.rewriting key.expr }) :=
    forall₂_map respelled fun _ _ here =>
      ⟨⟨here.ascending, here.nullsFirst⟩, respelled_rewriting here.expr⟩
  refine ⟨schemas, columns, outcomes.bind ?_⟩
  rintro ⟨first, rows⟩ ⟨second, otherRows⟩ ⟨schemas, matching, whole⟩
  obtain ⟨columns, sameRows⟩ := whole trivial
  dsimp only at schemas matching columns sameRows
  subst sameRows
  refine (alike_mapRows matching (fun row other index here =>
    alike_evaluateAll (here.context session.config.onError index)
      (forall₂_map rewritten fun _ _ here => here.expr)) 0).bind fun values others sameValues => ?_
  obtain rfl := eq_of_forall₂ sameValues
  rw [SortKey.sortRows_congr (rewritten.imp fun _ _ here => here.toSameDirection)]
  exact (SucceedAlike.refl _).bind fun sorted _ same => by
    subst same
    exact .ok _ _ (.of_aligned columns schemas.qualifiers rfl)

end Session

end ScalarSql
