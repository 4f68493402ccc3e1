import ScalarSql.Proofs.Expr.Qualifiers
import ScalarSql.Proofs.Plan.SortedProjection
import ScalarSql.Proofs.Session.OrderBy

/-!
# What a sort key stands for

The rows of a query are sorted after the projection that makes them, so that a sort key is
evaluated on a projected row.

**Main result.**  `Session.sortKeys_stand`: in an accepted query whose result columns have
different names, a lone name of a result column has the value of that column, and any other
sort key has the value of its expression on the row that the projected row is computed from.
This holds of keys with nothing between them and what they say, `Plan.ReadsAsWritten`.

**Stars.**  A star hands all columns of the table on, without their qualifiers.  What a key
says of the handed on row it also says of the row of the table.
-/

set_option autoImplicit false

namespace ScalarSql

namespace Session

variable {session : Session} {source : Schema} {context : RowContext}

/-! ## Keys over listed columns -/

/-- **A name that is looked up** on a projected row has the value of the column at its
position, which is that of the expression written there. -/
theorem evaluate_lookedUp {written items : List NamedExpr} {produced : List Column}
    {start after : Nat} {output : Row}
    (resolved : Plan.resolveNamed session.scope source written start
      = .ok ((items, produced), after))
    (evaluated : Expr.evaluateAll context (items.map fun item => session.rewriting item.expr)
      = .ok output)
    {key : String} {position : Nat} (found : Plan.positionOf? written key = some position)
    {item : NamedExpr} (atPosition : written[position]? = some item) :
    ∃ value first outcome, output[position]? = some value ∧
      item.expr.resolve session.scope source first = .ok outcome ∧
      (session.rewriting outcome.1).evaluate context = .ok value ∧
      Expr.evaluateColumn { context with schema := { columns := produced }, row := output } key
        = .ok value := by
  obtain ⟨first, outcome, itemResolved, atItem⟩ :=
    Plan.getElem?_of_resolveNamed resolved atPosition
  have atExpr : (items.map fun item => session.rewriting item.expr)[position]?
      = some (session.rewriting outcome.1) := by
    rw [List.getElem?_map, atItem]
    rfl
  obtain ⟨value, atValue, itemEvaluated⟩ := Expr.evaluate_at evaluated atExpr
  refine ⟨value, first, outcome, atValue, itemResolved, itemEvaluated, ?_⟩
  have names : Schema.names { columns := produced } = written.map NamedExpr.name :=
    Plan.names_of_resolveNamed resolved
  have looked := (Plan.indexOf?_eq_positionOf? names key).trans found
  simp only [Expr.evaluateColumn, looked, atValue]

/-! ## Keys over a star -/

section Star

variable {produced : List Column} {items : List NamedExpr} {start after : Nat}

/-- The columns of a table whose names are told apart are found at their own positions. -/
theorem indexOf?_of_distinct {columns : List Column}
    (distinct : columns.Pairwise fun left right => Text.sameName left.name right.name = false)
    {position : Nat} {column : Column} (atPosition : columns[position]? = some column) :
    Schema.indexOf? { columns } column.name = some position := by
  have apart : QueryResult.Distinct { columns, rows := [] } := distinct
  exact apart.columnIndex? atPosition

/-- A star hands on the columns of the table as they are. -/
theorem columns_of_star
    (resolved : Plan.resolveNamed session.scope source (Plan.allColumns source) start
      = .ok ((items, produced), after))
    (distinct : produced.Pairwise fun left right =>
      Text.sameName left.name right.name = false) :
    produced = source.columns ∧ items = Plan.allColumns source := by
  have names : produced.map Column.name = source.columns.map Column.name :=
    (Plan.names_of_resolveNamed resolved).trans (Plan.names_allColumns source).symm
  rw [← Plan.passThrough_allColumns] at resolved
  obtain ⟨sameItems, sameColumns⟩ := eq_of_resolveNamed_passThrough resolved
  refine ⟨?_, sameItems.trans (Plan.passThrough_allColumns source)⟩
  have apart : source.columns.Pairwise fun left right =>
      Text.sameName left.name right.name = false := by
    have inNames : (produced.map Column.name).Pairwise fun left right =>
        Text.sameName left right = false := List.pairwise_map.mpr distinct
    rw [names] at inNames
    exact List.pairwise_map.mp inNames
  calc produced
      = source.columns.filterMap fun column =>
          (source.column? column.name).map fun first =>
            { name := column.name, type := first.type } := by
        exact sameColumns.trans List.filterMap_map
    _ = source.columns.filterMap some := by
        refine List.filterMap_congr fun column member => ?_
        obtain ⟨position, atPosition⟩ := List.mem_iff_getElem?.mp member
        have found : source.indexOf? column.name = some position :=
          indexOf?_of_distinct apart atPosition
        rw [Schema.column?_eq_bind, found, Option.bind_some, atPosition]
        rfl
    _ = source.columns := List.filterMap_some

/-- The values that a star hands on. -/
theorem value_of_star {output : Row} (evaluated : Expr.evaluateAll context
      ((Plan.allColumns source).map fun item => session.rewriting item.expr) = .ok output)
    {position : Nat} {column : Column} (atPosition : source.columns[position]? = some column) :
    ∃ value, output[position]? = some value ∧
      Expr.evaluateColumn context column.name = .ok value := by
  have atExpr : ((Plan.allColumns source).map fun item => session.rewriting item.expr)[position]?
      = some (.column column.name) := by
    simp only [Plan.allColumns, List.map_map, List.getElem?_map, atPosition, Option.map_some,
      Function.comp_apply, session.rewriter_rewriting.column]
  exact Expr.evaluate_at evaluated atExpr

/-- **A row that a star hands on** has the values of the row of the table under all
names. -/
theorem agree_of_star (isSource : context.schema = source) {output : Row}
    (distinct : source.columns.Pairwise fun left right =>
      Text.sameName left.name right.name = false)
    (evaluated : Expr.evaluateAll context ((Plan.allColumns source).map fun item =>
      session.rewriting item.expr) = .ok output) :
    RowContext.Agree (fun _ => True)
      { context with schema := { columns := source.columns }, row := output } context := by
  refine ⟨rfl, rfl, fun name _ => ?_⟩
  have sameIndex : Schema.indexOf? { columns := source.columns } name = source.indexOf? name := rfl
  simp only [Expr.evaluateColumn, sameIndex, isSource]
  cases found : source.indexOf? name with
  | none => rfl
  | some position =>
      obtain ⟨bound, -⟩ := List.findIdx?_eq_some_iff_getElem.mp found
      have atPosition : source.columns[position]? = some source.columns[position] :=
        List.getElem?_eq_getElem bound
      obtain ⟨value, atValue, columnEvaluated⟩ := value_of_star evaluated atPosition
      have inRow := evaluateColumn_eq_ok columnEvaluated
      have own : source.indexOf? source.columns[position].name = some position :=
        indexOf?_of_distinct distinct atPosition
      rw [isSource, own, Option.bind_some] at inRow
      simp only [atValue, inRow]

end Star

/-! ## What sort keys stand for -/

/-- What a sort key stands for, on a row and on the row that is projected from it. -/
structure Stands (session : Session) (parts : SelectParts) (names : NameScope) (result : Schema)
    (context projected : RowContext) (term : Syntax.Term) (key : Expr) : Prop where
  /-- A lone name of a result column has the value of that column. -/
  named : ∀ name column, term = .identifier name → result.indexOf? name.text = some column →
    ∃ value, projected.row[column]? = some value ∧
      (session.rewriting key).evaluate projected = .ok value
  /-- Any other key has the value of its expression on the row itself. -/
  computed : (∀ name, term = .identifier name → result.indexOf? name.text = none) →
    ∃ written start resolved, Expr.ofTerm names term = .ok written ∧
      (parts.overGroups written).resolve session.scope context.schema start = .ok resolved ∧
      (session.rewriting key).evaluate projected
        = (session.rewriting resolved.1).evaluate context

section Stands

variable {parts : SelectParts} {names : NameScope} {result : Schema} {term : Syntax.Term}
  {written original : Expr} {items : List NamedExpr} {produced : List Column} {output : Row}
  {key : Expr × Nat} {start after keyStart : Nat}

/-- Keys over listed columns are names, which are looked up. -/
theorem stands_of_listed (clear : Plan.ReadsAsWritten names parts.part term)
    (listed : parts.part.columns ≠ [])
    (shown : result.names = parts.part.columns.map NamedExpr.name)
    (distinct : Plan.DistinctNames parts.part.columns)
    (hiddenNamed : Plan.HiddenNamed parts.part.hidden)
    (planning : Plan.sortExpr names term = .ok written)
    (sorts : Plan.SortsBy parts.part.columns parts.part.hidden written original)
    (keyResolved : original.resolve session.scope { columns := produced } keyStart = .ok key)
    (resolved : Plan.resolveNamed session.scope context.schema
      (parts.above.columns ++ parts.above.hidden) start = .ok ((items, produced), after))
    (evaluated : Expr.evaluateAll context (items.map fun item => session.rewriting item.expr)
      = .ok output) :
    Stands session parts names result context
      { context with schema := { columns := produced }, row := output } term key.1 := by
  -- The key is a name, and its value is that of what is found under it.
  have lookedUp : ∀ {name : String} {position : Nat}, original = .column name →
      Plan.positionOf? (parts.part.columns ++ parts.part.hidden) name = some position →
        ∃ item value first outcome,
          (parts.part.columns ++ parts.part.hidden)[position]? = some item ∧
          output[position]? = some value ∧
          (parts.overGroups item.expr).resolve session.scope context.schema first = .ok outcome ∧
          (session.rewriting outcome.1).evaluate context = .ok value ∧
          (session.rewriting key.1).evaluate
            { context with schema := { columns := produced }, row := output } = .ok value := by
    intro name position isName found
    obtain ⟨bound, -, -⟩ := List.findIdx?_eq_some_iff_getElem.mp found
    have atItem := List.getElem?_eq_getElem bound
    rw [parts.projected_above] at resolved
    obtain ⟨value, first, outcome, atValue, itemResolved, itemEvaluated, looked⟩ :=
      evaluate_lookedUp resolved evaluated ((Plan.positionOf?_map _ _ name).trans found)
        ((List.getElem?_map ..).trans (congrArg _ atItem))
    rw [isName] at keyResolved
    refine ⟨_, value, first, outcome, atItem, atValue, itemResolved, itemEvaluated, ?_⟩
    rw [(Expr.of_resolveColumn keyResolved).2, session.rewriter_rewriting.column, Expr.evaluate]
    exact looked
  constructor
  · intro name column lone shownAt
    rw [Plan.indexOf?_eq_positionOf? shown] at shownAt
    obtain ⟨keyName, isName, found⟩ :=
      clear.named_position distinct lone shownAt planning sorts
    obtain ⟨_, value, _, _, -, atValue, -, -, keyEvaluated⟩ := lookedUp isName found
    exact ⟨value, atValue, keyEvaluated⟩
  · intro other
    have unnamed : ¬ Plan.IsOutputName parts.part.columns term := by
      rintro ⟨name, lone, called⟩
      have absent := other name lone
      rw [Plan.indexOf?_eq_positionOf? shown] at absent
      exact Plan.positionOf?_eq_none.mp absent called
    obtain ⟨meant, keyName, position, item, isName, found, atItem, same⟩ :=
      clear.computed_position distinct hiddenNamed listed unnamed planning sorts
    obtain ⟨_, value, first, outcome, atFound, -, itemResolved, itemEvaluated, keyEvaluated⟩ :=
      lookedUp isName found
    cases atItem.symm.trans atFound
    rw [same] at itemResolved
    exact ⟨written, first, outcome, meant, itemResolved, keyEvaluated.trans itemEvaluated.symm⟩

/-- Keys over a star are computed from the row that is handed on. -/
theorem stands_of_star (clear : Plan.ReadsAsWritten names parts.part term)
    (star : parts.part.columns = []) (plain : parts.grouped = false)
    (shown : result = { columns := produced })
    (distinct : produced.Pairwise fun left right => Text.sameName left.name right.name = false)
    (planning : Plan.sortExpr names term = .ok written)
    (sorts : Plan.SortsBy parts.part.columns parts.part.hidden written original)
    (hidden : parts.part.hidden = [])
    (keyResolved : original.resolve session.scope { columns := produced } keyStart = .ok key)
    (resolved : Plan.resolveNamed session.scope context.schema (Plan.allColumns context.schema)
      start = .ok ((items, produced), after))
    (evaluated : Expr.evaluateAll context (items.map fun item => session.rewriting item.expr)
      = .ok output) :
    Stands session parts names result context
      { context with schema := { columns := produced }, row := output } term key.1 := by
  have unlisted : ∀ name, ¬ Plan.Names parts.part.columns name := by
    rintro name ⟨column, member, -⟩
    rw [star] at member
    cases member
  have same : original = written := by
    rw [star, hidden] at sorts
    cases sorts with
    | star none => rfl
    | item column found => cases found
    | named name plain none called => exact absurd (star ▸ called) (unlisted name)
    | hidden column member => cases member
  obtain ⟨rfl, rfl⟩ := columns_of_star resolved distinct
  constructor
  · intro name column lone shownAt
    rw [shown] at shownAt
    obtain ⟨bound, -, -⟩ := List.findIdx?_eq_some_iff_getElem.mp shownAt
    obtain ⟨value, atValue, -⟩ := value_of_star evaluated (List.getElem?_eq_getElem bound)
    refine ⟨value, atValue, ?_⟩
    rw [lone] at planning
    cases planning
    rw [same] at keyResolved
    rw [(Expr.of_resolveColumn keyResolved).2, session.rewriter_rewriting.column, Expr.evaluate]
    simp only [Expr.evaluateColumn, shownAt, atValue]
  · intro other
    have unnamed : ¬ Plan.IsOutputName parts.part.columns term := by
      rintro ⟨name, -, called⟩
      exact unlisted name.text called
    refine ⟨written, keyStart, key, (clear.computed unnamed).meant planning, ?_, ?_⟩
    · rw [SelectParts.overGroups, plain, if_neg Bool.false_ne_true, ← same]
      exact Expr.resolve_of_bare keyResolved
    · exact Expr.evaluate_congr (agree_of_star rfl distinct evaluated) fun _ _ => trivial

end Stands

/-- **Sort keys mean what is written.**  The rows of an accepted query with an order, whose
result columns have different names, are sorted after a projection.  On every row that the
projection makes, every sort key with nothing between it and what it says has the value of
the result column that it names on its own, or else the value of its expression on the row
that is projected. -/
theorem sortKeys_stand (session : Session) (query : Syntax.Query) (select : Syntax.Select)
    (parts : SelectParts) (names : NameScope) (draft analyzed : Plan) (schema : Schema)
    (next after : Nat) (body : query.body = .select select)
    (read : Plan.readSelect session.tableColumns select query.order = .ok parts)
    (inScope : Plan.scopeOf session.tableColumns select = .ok names)
    (planned : Plan.ofQuery session.tableColumns query = .ok draft)
    (accepted : draft.analyzeNode session.scope session.catalog next
      = .ok ((analyzed, schema), after))
    (ordered : query.order ≠ [])
    (distinct : schema.columns.Pairwise fun left right =>
      Text.sameName left.name right.name = false)
    (clear : ∀ item ∈ query.order, Plan.ReadsAsWritten names parts.part item.term) :
    ∃ keys items inner source produced,
      .sort keys (.project items inner) ∈ analyzed.operators ∧
      Plan.HasSchema session.catalog inner source ∧
      Plan.HasSchema session.catalog (.project items inner) produced ∧
      keys.length = query.order.length ∧
      ∀ policy row index output,
        Expr.evaluateAll { schema := source, policy, row, index }
          (items.map fun item => session.rewriting item.expr) = .ok output →
        ∀ (position : Nat) (item : Syntax.OrderItem) (key : SortKey),
          query.order[position]? = some item → keys[position]? = some key →
            session.Stands parts names schema { schema := source, policy, row, index }
              { schema := produced, policy, row := output, index } item.term key.expr := by
  simp only [Plan.ofQuery, body, Plan.ofSelect_eq, read, bind_eq_ok] at planned
  obtain ⟨inner, ⟨_, same, assembled⟩, limited⟩ := planned
  cases same
  obtain ⟨rfl, grouped⟩ := Plan.eq_of_assemble assembled
  obtain ⟨-, starHidden, -⟩ := Plan.of_readSelect read
  -- Every key is planned by one of the rules.
  obtain ⟨_, sameScope, -, sortingRead⟩ := Plan.readIn_of_readSelect read
  cases sameScope.symm.trans inScope
  obtain ⟨hiddenNamed, -, keysLength, rules⟩ :=
    Plan.of_sortKeys Plan.hiddenNamed_nil sortingRead
  dsimp only at hiddenNamed keysLength rules
  have some : parts.sorting ≠ [] := by
    intro none
    rw [none, List.length_nil] at keysLength
    exact ordered (List.length_eq_zero_iff.mp keysLength.symm)
  have aboveEmpty : parts.above.columns = [] ↔ parts.part.columns = [] := by
    rw [← List.map_eq_nil_iff (f := NamedExpr.name), parts.names_above, List.map_eq_nil_iff]
  obtain ⟨⟨⟨sorted, result⟩, _⟩, acceptedInner, sameSchema, kept⟩ :=
    Plan.analyzed_of_limitBy limited accepted
  dsimp only at sameSchema kept
  subst sameSchema
  obtain ⟨keys, items, inner, source, produced, projection, ofStar, ofListed⟩ :=
    Plan.sortedProjection_of_analyzeNode some (fun none => parts.hidden_above.mpr
      (starHidden (aboveEmpty.mp none))) acceptedInner
  dsimp only at projection ofStar ofListed
  obtain ⟨start, _, itemsResolved⟩ := projection.columns
  obtain ⟨keysStart, _, keysResolved⟩ := projection.keys
  refine ⟨keys, items, inner, source, { columns := produced }, kept _ projection.operator,
    projection.input, ?_, (Plan.length_of_resolveKeys keysResolved).trans keysLength, ?_⟩
  · exact projection.typed
  · intro policy row index output evaluated position item key atItem atKey
    obtain ⟨original, keyStart, outcome, atOriginal, keyResolved, same⟩ :=
      Plan.getElem?_of_resolveKeys keysResolved atKey
    obtain ⟨written, planning, sorts⟩ := rules position item original atItem atOriginal
    have itemClear := clear item (List.mem_of_getElem? atItem)
    rw [same]
    by_cases star : parts.part.columns = []
    · have noHidden := starHidden star
      have unlisted := aboveEmpty.mpr star
      have plain : parts.grouped = false := by
        cases isGrouped : parts.grouped with
        | false => rfl
        | true => exact absurd star (grouped isGrouped)
      rw [unlisted, parts.hidden_above.mpr noHidden] at itemsResolved
      have shown := ofStar unlisted
      rw [shown] at distinct
      exact stands_of_star itemClear star plain shown distinct planning sorts noHidden
        keyResolved itemsResolved evaluated
    · have listed : parts.above.columns ≠ [] := fun none => star (aboveEmpty.mp none)
      have notEmpty : (parts.above.columns ++ parts.above.hidden).isEmpty = false := by
        simp [List.isEmpty_eq_false_iff, listed]
      rw [notEmpty, if_neg Bool.false_ne_true] at itemsResolved
      have shown := (ofListed listed).trans parts.names_above
      have apart : Plan.DistinctNames parts.part.columns := by
        have inNames : result.names.Pairwise fun left right =>
            Text.sameName left right = false := List.pairwise_map.mpr distinct
        rw [shown] at inNames
        exact List.pairwise_map.mp inNames
      exact stands_of_listed itemClear star shown apart hiddenNamed planning sorts keyResolved
        itemsResolved evaluated

/-- `SELECT a AS x, b FROM t ORDER BY x, a + b`: the first key is a column of the result,
and the second one is computed from the table. -/
theorem sortKeys_stand_of_sum :
    let name (text : String) : Syntax.Name := ⟨text, none⟩
    let int (number : Int) : Value := .int (BoundedInt.wrap number)
    let batch : Batch := {
      columns := [("a", .int32), ("b", .int32)], rows := [[.number 1, .number 20]] }
    let session := match (ofConfig {} {}).registerTable "t" [batch] with
      | .ok made => made
      | .error _ => ofConfig {} {}
    let select : Syntax.Select := {
      distinct := false
      items := [.aliased (.identifier (name "a")) (name "x"), .bare (.identifier (name "b"))]
      sources := [⟨.table [name "t"] none, false, "t"⟩]
      condition := none
      grouping := .terms []
      having := none }
    let sum : Syntax.Term := .binary (.identifier (name "a"))
      (Syntax.Term.known (.arithmetic .add)) (.identifier (name "b"))
    let query : Syntax.Query := {
      body := .select select
      order := [⟨.identifier (name "x"), none, none, ""⟩, ⟨sum, none, none, ""⟩]
      limit := none, offset := none, spelling := "" }
    let written : Expr := .binary (.arithmetic .add) (.column "a") (.column "b")
    let columns : List NamedExpr := [⟨.column "a", "x"⟩, ⟨.column "b", "b"⟩]
    let hidden : List NamedExpr := [⟨written, "__order_0"⟩]
    let keys : List SortKey := [⟨.column "x", true, true⟩, ⟨.column "__order_0", true, true⟩]
    let plan : Plan := .project (NamedExpr.passThrough columns)
      (.sort keys (.project (columns ++ hidden) (.scan "t" none)))
    let projected : RowContext := {
      schema := { columns := [⟨"x", .int⟩, ⟨"b", .int⟩, ⟨"__order_0", .int⟩] }
      policy := .abort, row := [int 1, int 20, int 21], index := 0 }
    Plan.ofQuery session.tableColumns query = .ok plan ∧
      plan.analyzeNode session.scope session.catalog 0
        = .ok ((plan, { columns := [⟨"x", .int⟩, ⟨"b", .int⟩] }), 0) ∧
      (keys.map fun key => (session.rewriting key.expr).evaluate projected)
        = [.ok (int 1), .ok (int 21)] := by
  intro name int batch session select sum query written columns hidden keys plan projected
  have planned : Plan.ofQuery session.tableColumns query = .ok plan := by
    subst session query plan keys hidden columns written sum select batch int name
    rfl
  have accepted : plan.analyzeNode session.scope session.catalog 0
      = .ok ((plan, { columns := [⟨"x", .int⟩, ⟨"b", .int⟩] }), 0) := by
    subst session plan keys hidden columns written batch
    rfl
  let parts : SelectParts :=
    { input := .scan "t" none, keys := [], part := { columns, hidden, having := none }
      sorting := keys }
  let scope : NameScope := { aliases := [("x", .column "a")], columns := ["a", "b"] }
  have read : Plan.readSelect session.tableColumns select query.order = .ok parts := by
    subst session query parts keys hidden columns written sum select batch int name
    rfl
  have inScope : Plan.scopeOf session.tableColumns select = .ok scope := by
    subst session scope select batch int name
    rfl
  have meant : Expr.ofTerm scope sum = .ok written := by
    subst scope sum written name
    rfl
  have clear : ∀ item ∈ query.order, Plan.ReadsAsWritten scope parts.part item.term := by
    intro item member
    rcases List.mem_cons.mp member with rfl | member
    · refine ⟨?_, ?_⟩
      · rintro _ _ ⟨⟩ - none
        cases none
      · intro unnamed
        exact absurd ⟨name "x", rfl, _, List.mem_cons_self, Text.sameName_refl "x"⟩ unnamed
    · cases List.mem_singleton.mp member
      refine ⟨nofun, fun _ => ⟨nofun, nofun, ?_, ?_⟩⟩
      · intro _ read item member same
        cases read.symm.trans meant
        have known : item ∈ columns ++ hidden := member
        simp only [columns, hidden, List.cons_append, List.nil_append, List.mem_cons,
          List.not_mem_nil, or_false] at known
        rcases known with rfl | rfl | rfl
        · cases same
        · cases same
        · rfl
      · intro _ _ item member _
        cases List.mem_singleton.mp member
        rintro ⟨column, member, called⟩
        have known : column ∈ columns := member
        simp only [columns, List.mem_cons, List.not_mem_nil, or_false] at known
        rcases known with rfl | rfl
        · exact absurd called (by decide)
        · exact absurd called (by decide)
  obtain ⟨sortedKeys, items, inner, source, produced, member, inputTyped, typed, -, stand⟩ :=
    sortKeys_stand session query select parts scope plan plan _ 0 0 rfl read inScope planned
      accepted (by simp [query]) (by decide) clear
  -- The only sort of the plan, and the columns of the rows below and above the projection.
  have only : sortedKeys = keys ∧ items = columns ++ hidden ∧ inner = .scan "t" none := by
    simpa [plan, Plan.operators] using member
  obtain ⟨rfl, rfl, rfl⟩ := only
  have sourceColumns : source = { columns := [⟨"a", .int⟩, ⟨"b", .int⟩], qualifiers := ["t"] } := by
    have found := inputTyped.schemaOf session.scope 0
    subst session batch
    cases found
    rfl
  have producedColumns : produced = projected.schema := by
    have found := typed.schemaOf session.scope 0
    subst session batch
    cases found
    rfl
  subst sourceColumns producedColumns
  have stands := stand .abort [int 1, int 20] 0 [int 1, int 20, int 21] (by
    subst session batch
    rfl)
  have first := (stands 0 _ _ rfl rfl).named (name "x") 0 rfl (by decide)
  have second := (stands 1 _ _ rfl rfl).computed nofun
  obtain ⟨value, atValue, firstEvaluated⟩ := first
  obtain ⟨_, _, resolved, read, sumResolved, secondEvaluated⟩ := second
  cases read.symm.trans meant
  cases atValue
  have itself : ∀ start, (parts.overGroups written).resolve session.scope
      { columns := [⟨"a", .int⟩, ⟨"b", .int⟩], qualifiers := ["t"] } start
        = .ok (written, start) := by
    intro start
    subst session batch
    rfl
  cases sumResolved.symm.trans (itself _)
  have value : (session.rewriting written).evaluate
      { schema := { columns := [⟨"a", .int⟩, ⟨"b", .int⟩], qualifiers := ["t"] }
        policy := .abort, row := [int 1, int 20], index := 0 } = .ok (int 21) := by
    subst session batch
    rfl
  refine ⟨planned, accepted, ?_⟩
  rw [List.map_cons, List.map_singleton, firstEvaluated, secondEvaluated.trans value]

end Session

end ScalarSql
