import ScalarSql.Proofs.Plan.RespelledGrouping
import ScalarSql.Proofs.Plan.SortedProjection
import ScalarSql.Proofs.Session.OrderBy

/-!
# Orders over respelled expressions

A select list is computed together with hidden columns for its order, sorted, and read again
by name without the hidden columns.  Two spellings of a query may put a sort key in a hidden
column or find it in the select list, so what they sort has the same columns up to case only
when each of them may appear in another place and any number of times.

**Sorting.**  The rows of such tables correspond, `Listing`, and keys that find columns of the
same expression by their names, `SortKey.SameColumn`, order them in the same way.

**Reading again.**  When the visible columns are read by name, the first of several columns of
one name takes the place of the others.  This happens only if there are hidden columns, so
the two plans show the same rows if both have hidden columns, or neither has, or the visible
names are different (`Alike.projectSorted`).
-/

set_option autoImplicit false

namespace ScalarSql

open Text (small)

/-! ## Items in another order -/

namespace NamedExpr

/-- Two columns computed from one expression up to case, whatever their names are. -/
def SameExpr (left right : NamedExpr) : Prop := left.expr.Respelled right.expr

/-- What a name stands for among named expressions, with all names in it small. -/
def found? (items : List NamedExpr) (name : String) : Option Expr :=
  (items.find? (Text.sameName ·.name name)).map fun item => item.expr.caseless

/-- The column of a named expression. -/
def column (schema : Schema) (item : NamedExpr) : Except Error Column :=
  item.expr.dataType schema |>.map fun type => { name := item.name, type }

theorem columns_eq_mapM (schema : Schema) (items : List NamedExpr) :
    columns schema items = items.mapM (column schema) := by
  induction items with
  | nil => rfl
  | cons item rest ih =>
      rw [columns, ih, List.mapM_cons, column]
      cases item.expr.dataType schema with
      | error fault => rfl
      | ok type => cases List.mapM (column schema) rest <;> rfl

end NamedExpr

theorem Expr.evaluateAll_eq_mapM (context : RowContext) (exprs : List Expr) :
    evaluateAll context exprs = exprs.mapM (evaluate context) := by
  induction exprs with
  | nil => rfl
  | cons expr rest ih =>
      rw [evaluateAll, ih, List.mapM_cons]
      cases expr.evaluate context with
      | error fault => rfl
      | ok value => cases List.mapM (evaluate context) rest <;> rfl

namespace Plan

/-- A resolved named expression with its column. -/
def resolveItem (scope : FunctionScope) (schema : Schema) (item : NamedExpr) :
    Resolving (NamedExpr × Column) := do
  let expr ← item.expr.resolve scope schema
  let type ← expr.dataType schema
  pure ({ expr, name := item.name }, { name := item.name, type })

theorem resolveNamed_eq (scope : FunctionScope) (schema : Schema) (items : List NamedExpr) :
    resolveNamed scope schema items = List.unzip <$> items.mapM (resolveItem scope schema) := by
  induction items with
  | nil => simp only [resolveNamed, List.mapM_nil, map_pure, List.unzip_nil]
  | cons item rest ih =>
      simp only [resolveNamed, ih, List.mapM_cons, resolveItem, map_eq_pure_bind, bind_assoc,
        pure_bind, List.unzip_cons]

theorem names_of_resolvedItems {scope : FunctionScope} {schema : Schema}
    {written : List NamedExpr} {next : Nat} {resolved : (List NamedExpr × List Column) × Nat}
    (result : resolveNamed scope schema written next = .ok resolved) :
    resolved.1.1.map NamedExpr.name = written.map NamedExpr.name := by
  have names := (hasColumns_of_resolveNamed result).imp fun _ _ typed => typed.1
  rw [← names_of_resolveNamed result]
  exact Session.eq_of_forall₂ (forall₂_map names fun _ _ same => same)

end Plan

section Items

variable {first second : Schema} (schemas : first.Matches second) {lefts rights : List NamedExpr}
  (items : Covering NamedExpr.SameExpr lefts rights)

include schemas items

theorem alike_resolveItems {scope : FunctionScope} (ignores : scope.IgnoresCase) :
    RunAlike (fun left right : List NamedExpr × List Column =>
        Corresponds NamedExpr.SameExpr NamedExpr.SameExpr lefts rights left.1 right.1 ∧
          (left.1.map NamedExpr.name = lefts.map NamedExpr.name ∧
            left.2.map Column.name = lefts.map NamedExpr.name) ∧
          right.1.map NamedExpr.name = rights.map NamedExpr.name ∧
            right.2.map Column.name = rights.map NamedExpr.name)
      (Plan.resolveNamed scope first lefts) (Plan.resolveNamed scope second rights) := by
  have each : ∀ left right : NamedExpr, left.SameExpr right →
      RunAlike (fun left right : NamedExpr × Column => left.1.SameExpr right.1)
        (Plan.resolveItem scope first left) (Plan.resolveItem scope second right) := by
    intro left right here
    refine (Expr.resolve_congr ignores schemas here).bind fun expr other respelled => ?_
    exact (RunAlike.lift (Expr.dataType_congr schemas respelled)).bind
      fun _ _ _ => .pure respelled
  have resolved : RunAlike (fun left right : List NamedExpr × List Column =>
        Corresponds NamedExpr.SameExpr NamedExpr.SameExpr lefts rights left.1 right.1)
      (Plan.resolveNamed scope first lefts) (Plan.resolveNamed scope second rights) := by
    rw [Plan.resolveNamed_eq, Plan.resolveNamed_eq]
    refine (RunAlike.mapM_of_covering items each).map fun values others pairs => ?_
    rw [List.unzip_eq_map, List.unzip_eq_map]
    exact pairs.map fun _ _ same => same
  refine resolved.computed.imp ?_
  rintro left right ⟨pairs, ⟨_, _, leftMade⟩, _, _, rightMade⟩
  exact ⟨pairs, ⟨Plan.names_of_resolvedItems leftMade, Plan.names_of_resolveNamed leftMade⟩,
    Plan.names_of_resolvedItems rightMade, Plan.names_of_resolveNamed rightMade⟩

theorem alike_columnsOf : SucceedAlike (fun _ _ => True) (NamedExpr.columns first lefts)
    (NamedExpr.columns second rights) := by
  rw [NamedExpr.columns_eq_mapM, NamedExpr.columns_eq_mapM]
  have each : ∀ left right : NamedExpr, left.SameExpr right →
      SucceedAlike (fun _ _ => True) (NamedExpr.column first left)
        (NamedExpr.column second right) :=
    fun left right here => (Expr.dataType_congr schemas here).map fun _ _ _ => trivial
  exact (SucceedAlike.mapM_of_covering items each).imp fun _ _ _ => trivial

omit schemas in
theorem alike_evaluateItems {context other : RowContext} (alike : context.Matches other) :
    SucceedAlike (Corresponds NamedExpr.SameExpr Eq lefts rights)
      (Expr.evaluateAll context (lefts.map NamedExpr.expr))
      (Expr.evaluateAll other (rights.map NamedExpr.expr)) := by
  rw [Expr.evaluateAll_eq_mapM, Expr.evaluateAll_eq_mapM, List.mapM_map, List.mapM_map]
  exact SucceedAlike.mapM_of_covering items fun left right here =>
    Expr.evaluate_congr_caseless alike here

end Items

/-! ## Rows of items -/

/-- Two tables of the items of two lists: items computed from one expression have the same
values. -/
structure Listing (lefts rights : List NamedExpr) (left right : Schema × List Row) : Prop where
  names : left.1.names = lefts.map NamedExpr.name
  otherNames : right.1.names = rights.map NamedExpr.name
  rows : List.Forall₂ (Corresponds NamedExpr.SameExpr Eq lefts rights) left.2 right.2

/-- Two keys of one direction that read items computed from one expression. -/
structure SortKey.SameColumn (lefts rights : List NamedExpr) (left right : SortKey) : Prop extends
    SortKey.SameDirection left right where
  found : ∃ name other, left.expr = .column name ∧ right.expr = .column other ∧
    NamedExpr.found? lefts name = NamedExpr.found? rights other

section Found

variable {lefts rights : List NamedExpr} {first second : Schema}
  (names : first.names = lefts.map NamedExpr.name)
  (otherNames : second.names = rights.map NamedExpr.name) {name other : String}
  (found : NamedExpr.found? lefts name = NamedExpr.found? rights other)

include names otherNames found

/-- Names that stand for one expression are found in both tables or in neither. -/
theorem indexOf?_of_found : (first.indexOf? name = none ∧ second.indexOf? other = none) ∨
    ∃ i j item another, first.indexOf? name = some i ∧ second.indexOf? other = some j ∧
      lefts[i]? = some item ∧ rights[j]? = some another ∧ item.SameExpr another := by
  rw [Plan.indexOf?_eq_positionOf? names, Plan.indexOf?_eq_positionOf? otherNames]
  exact Reference.findIdx?_of_map_find? found

theorem alike_resolveFound :
    RunAlike (fun left right => left = .column name ∧ right = .column other)
      (Expr.resolveColumn first name) (Expr.resolveColumn second other) := by
  unfold Expr.resolveColumn
  rcases indexOf?_of_found names otherNames found with ⟨left, right⟩ |
    ⟨i, j, _, _, left, right, -, -, -⟩
  · rw [left, right]
    exact .throw _ _
  · rw [left, right]
    exact .pure ⟨rfl, rfl⟩

theorem alike_evaluateFound {left right : Row}
    (row : Corresponds NamedExpr.SameExpr Eq lefts rights left right) (policy : FailurePolicy)
    (index : Nat) :
    SucceedAlike Eq
      (Expr.evaluateColumn { schema := first, policy, row := left, index } name)
      (Expr.evaluateColumn { schema := second, policy, row := right, index } other) := by
  refine .of_toOption ?_
  rw [Expr.toOption_evaluateColumn, Expr.toOption_evaluateColumn, RowContext.value?,
    RowContext.value?]
  rcases indexOf?_of_found names otherNames found with ⟨left, right⟩ |
    ⟨i, j, item, another, left, right, atLeft, atRight, same⟩
  · rw [left, right]
    rfl
  · have bound := row.length.symm ▸ (List.getElem?_eq_some_iff.mp atLeft).1
    have otherBound := row.otherLength.symm ▸ (List.getElem?_eq_some_iff.mp atRight).1
    rw [left, right, Option.bind_some, Option.bind_some, List.getElem?_eq_getElem bound,
      List.getElem?_eq_getElem otherBound]
    exact congrArg some (row.pairs i j item another _ _ atLeft atRight same
      (List.getElem?_eq_getElem bound) (List.getElem?_eq_getElem otherBound))

end Found

/-- Sorting by the same values keeps rows related that are related one by one. -/
theorem alike_sortRows {related : Row → Row → Prop} {lefts rights : List Row}
    (rows : List.Forall₂ related lefts rights) (keys : List SortKey) (values : List (List Value)) :
    SucceedAlike (List.Forall₂ related) (SortKey.sortRows keys (values.zip lefts))
      (SortKey.sortRows keys (values.zip rights)) := by
  obtain ⟨length, pairs⟩ := List.forall₂_iff_zip.mp rows
  -- Both lists are sorted together, with the pairs of rows behind the values.
  let paired := adaptiveSort (fun left right => SortKey.below keys left.1 right.1)
    (values.zip (lefts.zip rights))
  have sorts : ∀ shown : Row × Row → Row,
      adaptiveSort (fun left right => SortKey.below keys left.1 right.1)
          (values.zip ((lefts.zip rights).map shown))
        = paired.map (List.map fun placed => (placed.1, shown placed.2)) := by
    intro shown
    rw [List.zip_map_right]
    exact adaptiveSort_map (fun _ _ => rfl) _
  have left := sorts Prod.fst
  have right := sorts Prod.snd
  rw [List.map_fst_zip (Nat.le_of_eq length)] at left
  rw [List.map_snd_zip (Nat.le_of_eq length.symm)] at right
  rw [SortKey.sortRows, SortKey.sortRows, left, right]
  cases found : paired with
  | none => exact .error _ _
  | some sorted =>
      refine .ok _ _ ?_
      rw [List.map_map, List.map_map, List.forall₂_map_left_iff, List.forall₂_map_right_iff,
        List.forall₂_same]
      intro placed member
      exact pairs (List.of_mem_zip ((adaptiveSort_perm found).mem_iff.mp member)).2

namespace Session

variable {session : Session}

/-- Both plans are rejected, or both are accepted with the items of two lists and end alike. -/
def Lists (session : Session) (lefts rights : List NamedExpr) (left right : Plan) : Prop :=
  RunAlike (fun first second : Plan × Schema =>
      first.2.names = lefts.map NamedExpr.name ∧ second.2.names = rights.map NamedExpr.name ∧
        SucceedAlike (Listing lefts rights) (session.rowsOf first.1) (session.rowsOf second.1))
    (left.analyzeNode session.scope session.catalog)
    (right.analyzeNode session.scope session.catalog)

/-- **A projection of the same items up to case**, in another order. -/
theorem Lists.project {aligned : Prop} (ignores : session.scope.IgnoresCase) {left right : Plan}
    (input : session.Alike aligned left right) {lefts rights : List NamedExpr}
    (items : Covering NamedExpr.SameExpr lefts rights) (listed : lefts ≠ [])
    (otherListed : rights ≠ []) :
    session.Lists lefts rights (.project lefts left) (.project rights right) := by
  unfold Lists
  simp only [Plan.analyzeNode, List.isEmpty_iff, listed, otherListed, if_false]
  refine input.bind ?_
  rintro ⟨analyzed, first⟩ ⟨otherAnalyzed, second⟩ ⟨schemas, -, outcomes⟩
  refine (alike_resolveItems schemas items ignores).bind ?_
  rintro ⟨resolved, produced⟩ ⟨others, otherProduced⟩
    ⟨pairs, ⟨itemNames, names⟩, otherItemNames, otherNames⟩
  refine .pure ⟨names, otherNames, outcomes.bind ?_⟩
  rintro ⟨first, rows⟩ ⟨second, otherRows⟩ ⟨schemas, matching, -⟩
  have rewritten : Corresponds NamedExpr.SameExpr NamedExpr.SameExpr lefts rights
      (resolved.map fun item => { item with expr := session.rewriting item.expr })
      (others.map fun item => { item with expr := session.rewriting item.expr }) :=
    pairs.map fun _ _ here => respelled_rewriting here
  have covering := rewritten.covering items
  refine (alike_columnsOf schemas covering).computed.bind ?_
  rintro columns otherColumns ⟨-, typed, otherTyped⟩
  refine (alike_mapRows matching (fun row other index here =>
    alike_evaluateItems covering (here.context session.config.onError index)) 0).bind
      fun values otherValues results => .ok _ _ ⟨?_, ?_, results.imp fun _ _ => rewritten.trans⟩
  · refine (names_of_columns typed).trans (Eq.trans ?_ itemNames)
    rw [List.map_map]
    rfl
  · refine (names_of_columns otherTyped).trans (Eq.trans ?_ otherItemNames)
    rw [List.map_map]
    rfl

/-- **A sort** of the same items by keys that read the same ones. -/
theorem Lists.sort {lefts rights : List NamedExpr} {left right : Plan}
    (input : session.Lists lefts rights left right) {keys others : List SortKey}
    (same : List.Forall₂ (SortKey.SameColumn lefts rights) keys others) :
    session.Lists lefts rights (.sort keys left) (.sort others right) := by
  have resolves : ∀ {first second : Schema}, first.names = lefts.map NamedExpr.name →
      second.names = rights.map NamedExpr.name →
      RunAlike (List.Forall₂ (SortKey.SameColumn lefts rights))
        (Plan.resolveKeys session.scope first keys)
        (Plan.resolveKeys session.scope second others) := by
    intro first second names otherNames
    clear input
    induction same with
    | nil => exact .pure .nil
    | cons here _ ih =>
        obtain ⟨name, other, isName, isOther, found⟩ := here.found
        simp only [Plan.resolveKeys, isName, isOther, Expr.resolve]
        refine (alike_resolveFound names otherNames found).bind ?_
        rintro _ _ ⟨rfl, rfl⟩
        refine ih.bind fun keys others rest => .pure (.cons ?_ rest)
        exact ⟨⟨here.ascending, here.nullsFirst⟩, name, other, rfl, rfl, found⟩
  unfold Lists
  simp only [Plan.analyzeNode]
  refine RunAlike.bind input ?_
  rintro ⟨analyzed, first⟩ ⟨otherAnalyzed, second⟩ ⟨names, otherNames, outcomes⟩
  refine (resolves names otherNames).bind fun keys others same => .pure
    ⟨names, otherNames, outcomes.bind ?_⟩
  rintro ⟨first, rows⟩ ⟨second, otherRows⟩ ⟨names, otherNames, listing⟩
  have rewritten : List.Forall₂ (SortKey.SameColumn lefts rights)
      (keys.map fun key => { key with expr := session.rewriting key.expr })
      (others.map fun key => { key with expr := session.rewriting key.expr }) := by
    refine forall₂_map same fun key other here => ?_
    obtain ⟨name, otherName, isName, isOther, found⟩ := here.found
    refine ⟨⟨here.ascending, here.nullsFirst⟩, name, otherName, ?_, ?_, found⟩
    · rw [isName]
      exact session.rewriter_rewriting.column name
    · rw [isOther]
      exact session.rewriter_rewriting.column otherName
  have evaluates : ∀ (row other : Row) (index : Nat),
      Corresponds NamedExpr.SameExpr Eq lefts rights row other → SucceedAlike Eq
        (Expr.evaluateAll { schema := first, policy := session.config.onError, row, index }
          ((keys.map fun key => { key with expr := session.rewriting key.expr }).map SortKey.expr))
        (Expr.evaluateAll
          { schema := second, policy := session.config.onError, row := other, index }
          ((others.map fun key => { key with expr := session.rewriting key.expr }).map
            SortKey.expr)) := by
    intro row other index here
    generalize keys.map _ = keys, others.map _ = others at rewritten
    induction rewritten with
    | nil => exact .refl _
    | cons key _ ih =>
        obtain ⟨name, other, isName, isOther, found⟩ := key.found
        simp only [List.map_cons, Expr.evaluateAll, isName, isOther, Expr.evaluate]
        refine (alike_evaluateFound names otherNames found here _ _).elim
          (fun value _ equal => ?_) fun _ _ => .error _ _
        subst equal
        refine ih.elim (fun values _ equal => ?_) fun _ _ => .error _ _
        subst equal
        exact .refl _
  refine (alike_mapRows listing evaluates 0).bind fun values others sameValues => ?_
  obtain rfl := eq_of_forall₂ sameValues
  rw [← SortKey.sortRows_congr (rewritten.imp fun _ _ here => here.toSameDirection)]
  exact (alike_sortRows listing _ values).bind fun sorted others related =>
    .ok _ _ ⟨names, otherNames, related⟩

end Session

/-! ## Visible columns -/

namespace NamedExpr

/-- A row of columns read again from the first column of each name. -/
def reread (items : List NamedExpr) (row : Row) : Row :=
  items.filterMap fun item => (Plan.positionOf? items item.name).bind (row[·]?)

theorem reread_of_distinct {items : List NamedExpr} (distinct : Plan.DistinctNames items)
    {row : Row} (length : row.length = items.length) : reread items row = row :=
  QueryResult.filterMap_position length fun _ _ atIndex =>
    distinct.positionOf? atIndex (Text.sameName_refl _)

/-- Names up to case are enough to read a row again. -/
theorem reread_congr {items others : List NamedExpr}
    (names : List.Forall₂ (fun left right => small left.name = small right.name) items others) :
    reread items = reread others := by
  have position : ∀ left right : String, small left = small right →
      Plan.positionOf? items left = Plan.positionOf? others right := by
    intro left right same
    unfold Plan.positionOf?
    induction names with
    | nil => rfl
    | cons here _ ih =>
        rw [List.findIdx?_cons, List.findIdx?_cons, ih, Text.sameName_congr_left here,
          Text.sameName_congr_right same]
  have positions := Session.eq_of_forall₂ (forall₂_map names fun left right same =>
    position left.name right.name same)
  funext row
  have read : ∀ items : List NamedExpr, reread items row
      = (items.map fun item => Plan.positionOf? items item.name).filterMap
          fun position => position.bind (row[·]?) := by
    intro items
    rw [List.filterMap_map]
    rfl
  rw [read, read, positions]

/-- What is left of a row: its visible columns, which are read again by name if there are
hidden ones. -/
def shown (visible hidden : List NamedExpr) (row : Row) : Row :=
  if hidden.isEmpty then row.take visible.length else reread visible (row.take visible.length)

section Shown

variable {visible hidden others otherHidden : List NamedExpr}

theorem take_eq_of_corresponds (same : List.Forall₂ SameExpr visible others) {row other : Row}
    (corresponds : Corresponds SameExpr Eq (visible ++ hidden) (others ++ otherHidden) row other) :
    row.take visible.length = other.take others.length := by
  have length := corresponds.length
  have otherLength := corresponds.otherLength
  rw [List.length_append] at length otherLength
  refine List.ext_getElem ?_ fun i inRow inOther => ?_
  · rw [List.length_take, List.length_take, same.length_eq]
    have sameLength := same.length_eq
    omega
  · rw [List.length_take] at inRow inOther
    rw [List.getElem_take, List.getElem_take]
    have bound : i < visible.length := by omega
    have otherBound : i < others.length := by omega
    refine corresponds.pairs i i visible[i] others[i] _ _ ?_ ?_ (same.get bound otherBound)
      (List.getElem?_eq_getElem _) (List.getElem?_eq_getElem _)
    · rw [List.getElem?_append_left bound, List.getElem?_eq_getElem bound]
    · rw [List.getElem?_append_left otherBound, List.getElem?_eq_getElem otherBound]

/-- The same is left of two rows, unless the visible columns are read again on one side only
and that makes a difference. -/
theorem shown_eq (same : List.Forall₂ NamedExpr.Respelled visible others)
    (again : (hidden = [] ↔ otherHidden = []) ∨ Plan.DistinctNames visible) {row other : Row}
    (corresponds : Corresponds SameExpr Eq (visible ++ hidden) (others ++ otherHidden) row other) :
    shown visible hidden row = shown others otherHidden other := by
  have sameExprs : List.Forall₂ SameExpr visible others := same.imp fun _ _ here => here.expr
  have taken := take_eq_of_corresponds sameExprs corresponds
  have rereads : reread visible = reread others :=
    reread_congr (same.imp fun _ _ here => here.name)
  simp only [shown, List.isEmpty_iff, ← taken, ← rereads]
  rcases again with both | distinct
  · simp only [both]
  · have length : (row.take visible.length).length = visible.length := by
      rw [List.length_take, corresponds.length, List.length_append]
      omega
    rw [reread_of_distinct distinct length, ite_self, ite_self]

end Shown

end NamedExpr

namespace Session

variable {session : Session} {visible hidden : List NamedExpr} {schema : Schema}

/-- The visible columns of a table, which are read again by name if there are hidden ones. -/
def showColumns (session : Session) (visible hidden : List NamedExpr) (table : Schema × List Row) :
    Except Error (Schema × List Row) :=
  if hidden.isEmpty then .ok table
  else Plan.operateRows session.config.onError table.1 table.2
    (.project (NamedExpr.passThrough visible) .oneRow)

theorem exists_column? (names : schema.names = (visible ++ hidden).map NamedExpr.name) :
    ∀ item ∈ visible, ∃ i < visible.length, Plan.positionOf? visible item.name = some i ∧
      schema.indexOf? item.name = some i ∧ ∃ column, schema.column? item.name = some column := by
  intro item member
  have named : Plan.Names visible item.name := ⟨item, member, Text.sameName_refl _⟩
  cases position : Plan.positionOf? visible item.name with
  | none => exact absurd named (Plan.positionOf?_eq_none.mp position)
  | some i =>
      obtain ⟨bound, -, -⟩ := List.findIdx?_eq_some_iff_getElem.mp position
      have inSchema : schema.indexOf? item.name = some i :=
        (Plan.indexOf?_eq_positionOf? names _).trans (Plan.positionOf?_append_of_visible position)
      have within : i < schema.columns.length := by
        have sizes := congrArg List.length names
        rw [Schema.names, List.length_map, List.length_map, List.length_append] at sizes
        omega
      refine ⟨i, bound, rfl, inSchema, schema.columns[i], ?_⟩
      rw [Schema.column?_eq_bind, inSchema, Option.bind_some, List.getElem?_eq_getElem within]

section PassThrough

variable {items : List NamedExpr}
  (known : ∀ item ∈ items, ∃ column, schema.column? item.name = some column)

include known

theorem exists_resolvePassThrough (scope : FunctionScope) (start : Nat) :
    ∃ produced, Plan.resolveNamed scope schema (NamedExpr.passThrough items) start
      = .ok ((NamedExpr.passThrough items, produced), start) := by
  induction items with
  | nil => exact ⟨[], rfl⟩
  | cons item rest ih =>
      obtain ⟨⟨column, declared⟩, later⟩ := List.forall_mem_cons.mp known
      obtain ⟨produced, restResolved⟩ := ih later
      have position : ∃ i, schema.indexOf? item.name = some i := by
        rw [Schema.column?_eq_bind] at declared
        exact (Option.bind_eq_some_iff.mp declared).imp fun _ => And.left
      obtain ⟨i, atName⟩ := position
      have typed : (Expr.column item.name).dataType schema = .ok column.type := by
        simp only [Expr.dataType, declared]
      refine ⟨{ name := item.name, type := column.type } :: produced, ?_⟩
      simp only [NamedExpr.passThrough, List.map_cons, Plan.resolveNamed, Expr.resolve,
        Expr.resolveColumn, atName, state_bind_eq_ok, state_lift_eq_ok, state_pure_eq_ok]
      exact ⟨_, _, rfl, column.type, _, ⟨typed, rfl⟩, _, _, restResolved, rfl⟩

theorem exists_columnsPassThrough : ∃ columns,
    NamedExpr.columns schema (NamedExpr.passThrough items) = .ok columns := by
  rw [NamedExpr.columns_eq_mapM]
  refine exists_mapM fun item member => ?_
  obtain ⟨original, inItems, rfl⟩ := List.mem_map.mp member
  obtain ⟨column, declared⟩ := known original inItems
  exact ⟨_, by simp only [NamedExpr.column, Expr.dataType, declared, map_ok]; rfl⟩

end PassThrough

/-- Reading visible columns of a long enough row again never fails. -/
theorem evaluateAll_reread (names : schema.names = (visible ++ hidden).map NamedExpr.name)
    (policy : FailurePolicy) {row : Row} (long : visible.length ≤ row.length) (index : Nat) :
    Expr.evaluateAll { schema, policy, row, index }
        ((NamedExpr.passThrough visible).map NamedExpr.expr)
      = .ok (NamedExpr.reread visible (row.take visible.length)) := by
  have each : ∀ items : List NamedExpr, (∀ item ∈ items, item ∈ visible) →
      Expr.evaluateAll { schema, policy, row, index }
          ((NamedExpr.passThrough items).map NamedExpr.expr)
        = .ok (items.filterMap fun item => (Plan.positionOf? visible item.name).bind
            ((row.take visible.length)[·]?)) := by
    intro items among
    induction items with
    | nil => rfl
    | cons item rest ih =>
        obtain ⟨inVisible, later⟩ := List.forall_mem_cons.mp among
        obtain ⟨i, bound, position, atName, -⟩ := exists_column? names item inVisible
        have inRow : i < row.length := by omega
        have evaluated : Expr.evaluateColumn { schema, policy, row, index } item.name
            = .ok row[i] := by
          simp only [Expr.evaluateColumn, atName, List.getElem?_eq_getElem inRow]
        have restEvaluated := ih later
        rw [NamedExpr.passThrough] at restEvaluated
        simp only [NamedExpr.passThrough, List.map_cons, Expr.evaluateAll, Expr.evaluate, evaluated,
          restEvaluated, List.filterMap_cons, position, Option.bind_some,
          List.getElem?_take_of_lt bound, List.getElem?_eq_getElem inRow]
  exact each visible fun _ member => member

variable (session) in
/-- The visible columns of a table of items can always be shown. -/
theorem exists_showColumns {rows : List Row}
    (names : schema.names = (visible ++ hidden).map NamedExpr.name)
    (lengths : ∀ row ∈ rows, row.length = (visible ++ hidden).length) :
    ∃ columns, session.showColumns visible hidden (schema, rows)
      = .ok (columns, rows.map (NamedExpr.shown visible hidden)) := by
  unfold showColumns
  split
  · next none =>
      refine ⟨schema, congrArg (fun rows => Except.ok (schema, rows)) ?_⟩
      refine ((List.map_congr_left fun row member => ?_).trans (List.map_id rows)).symm
      have length := lengths row member
      rw [List.isEmpty_iff.mp none, List.append_nil] at length
      rw [NamedExpr.shown, if_pos none, ← length, List.take_length]
      rfl
  · next hides =>
      have known : ∀ item ∈ visible, ∃ column, schema.column? item.name = some column :=
        fun item member => (exists_column? names item member).elim fun _ found => found.2.2.2
      obtain ⟨columns, typed⟩ := exists_columnsPassThrough known
      have mapped : ∀ index, mapRows (fun row index => Expr.evaluateAll
            { schema, policy := session.config.onError, row, index }
            ((NamedExpr.passThrough visible).map NamedExpr.expr)) index rows
          = .ok (rows.map (NamedExpr.shown visible hidden)) := by
        refine mapRows_eq_map fun row member index => ?_
        have long : visible.length ≤ row.length := by
          rw [lengths row member, List.length_append]
          omega
        rw [evaluateAll_reread names _ long, NamedExpr.shown, if_neg hides]
      refine ⟨{ columns }, ?_⟩
      simp only [Plan.operateRows, typed, mapped]
      rfl

/-! ## Plans with the same rows -/

theorem forall_left_of_forall₂ {α β : Type} {related : α → β → Prop} {holds : α → Prop}
    {lefts : List α} {rights : List β} (items : List.Forall₂ related lefts rights)
    (implies : ∀ left right, related left right → holds left) : ∀ left ∈ lefts, holds left :=
  (List.forall₂_and_left lefts rights).mp
    (items.imp fun left right here => ⟨implies left right here, here⟩) |>.1

/-- Both plans are rejected, or both are accepted and end alike, with the same rows. -/
def SameRows (session : Session) (left right : Plan) : Prop :=
  RunAlike (fun first second : Plan × Schema =>
      SucceedAlike (fun left right : Schema × List Row => left.2 = right.2)
        (session.rowsOf first.1) (session.rowsOf second.1))
    (left.analyzeNode session.scope session.catalog)
    (right.analyzeNode session.scope session.catalog)

theorem Alike.sameRows {left right : Plan} (alike : session.Alike True left right) :
    session.SameRows left right :=
  RunAlike.imp alike fun _ _ found => found.2.2.imp fun _ _ matching => (matching.aligned trivial).2

/-- **A limit** keeps the same of the same rows. -/
theorem SameRows.limit {left right : Plan} (input : session.SameRows left right)
    (count offset : Nat) :
    session.SameRows (.limit count offset left) (.limit count offset right) := by
  unfold SameRows
  simp only [Plan.analyzeNode]
  refine RunAlike.bind input ?_
  rintro ⟨analyzed, first⟩ ⟨otherAnalyzed, second⟩ outcomes
  refine .pure (outcomes.bind ?_)
  rintro ⟨first, rows⟩ ⟨second, _⟩ rfl
  exact .ok _ _ rfl

/-- A plan with its visible columns only. -/
def showing (visible hidden : List NamedExpr) (plan : Plan) : Plan :=
  if hidden.isEmpty then plan else .project (NamedExpr.passThrough visible) plan

/-- The analysis of the projection to the visible columns. -/
def showNode (session : Session) (visible hidden : List NamedExpr) (input : Plan × Schema) :
    Resolving (Plan × Schema) :=
  if hidden.isEmpty then pure input
  else do
    let (items, produced) ← Plan.resolveNamed session.scope input.2 (NamedExpr.passThrough visible)
    pure (.project items input.1, { columns := produced })

theorem analyzeNode_showing (listed : visible ≠ []) (plan : Plan) :
    (showing visible hidden plan).analyzeNode session.scope session.catalog
      = plan.analyzeNode session.scope session.catalog >>= session.showNode visible hidden := by
  have some : (NamedExpr.passThrough visible).isEmpty = false := by
    simpa [List.isEmpty_eq_false_iff, NamedExpr.passThrough] using listed
  unfold showing
  cases none : hidden.isEmpty with
  | true =>
      have shows : session.showNode visible hidden = pure := by
        funext input
        rw [showNode, none, if_pos rfl]
      rw [shows, bind_pure, if_pos rfl]
  | false =>
      have shows : session.showNode visible hidden = (fun input => do
          let outcome ← Plan.resolveNamed session.scope input.2 (NamedExpr.passThrough visible)
          pure (.project outcome.1 input.1, { columns := outcome.2 })) := by
        funext input
        rw [showNode, none, if_neg Bool.false_ne_true]
      rw [shows, if_neg Bool.false_ne_true]
      simp only [Plan.analyzeNode, some, Bool.false_eq_true, if_false]

variable (session) in
theorem exists_showNode (analyzed : Plan)
    (names : schema.names = (visible ++ hidden).map NamedExpr.name) (start : Nat) :
    ∃ shown, session.showNode visible hidden (analyzed, schema) start = .ok (shown, start) ∧
      session.rowsOf shown.1 = session.rowsOf analyzed >>= session.showColumns visible hidden := by
  unfold showNode showColumns
  cases none : hidden.isEmpty with
  | true =>
      refine ⟨(analyzed, schema), rfl, ?_⟩
      simp only [if_true]
      exact (bind_pure _).symm
  | false =>
      have known : ∀ item ∈ visible, ∃ column, schema.column? item.name = some column :=
        fun item member => (exists_column? names item member).elim fun _ found => found.2.2.2
      obtain ⟨produced, resolved⟩ := exists_resolvePassThrough known session.scope start
      refine ⟨(.project (NamedExpr.passThrough visible) analyzed, { columns := produced }), ?_, ?_⟩
      · simp only [Bool.false_eq_true, if_false, state_bind_eq_ok, state_pure_eq_ok]
        exact ⟨_, _, resolved, rfl⟩
      · have unchanged : (NamedExpr.passThrough visible).map
            (fun item => { item with expr := session.rewriting item.expr })
              = NamedExpr.passThrough visible := by
          refine List.map_congr_left (g := id) (fun item member => ?_) |>.trans (List.map_id _)
          obtain ⟨original, -, rfl⟩ := List.mem_map.mp member
          simp only [session.rewriter_rewriting.column, id_eq]
        simp only [rowsOf, Plan.mapExprs, unchanged, Plan.rowsFrom]
        rfl

/-- **Showing visible columns** of listings of the same items leaves the same rows. -/
theorem Lists.sameRows {others otherHidden : List NamedExpr} {left right : Plan}
    (input : session.Lists (visible ++ hidden) (others ++ otherHidden) left right)
    (same : List.Forall₂ NamedExpr.Respelled visible others) (listed : visible ≠ [])
    (again : (hidden = [] ↔ otherHidden = []) ∨ Plan.DistinctNames visible) :
    session.SameRows (showing visible hidden left) (showing others otherHidden right) := by
  have otherListed : others ≠ [] := by
    rintro rfl
    cases same
    exact listed rfl
  unfold SameRows
  rw [analyzeNode_showing listed, analyzeNode_showing otherListed]
  refine RunAlike.bind input ?_
  rintro ⟨analyzed, first⟩ ⟨otherAnalyzed, second⟩ ⟨names, otherNames, outcomes⟩ start begin
  obtain ⟨shown, accepted, rows⟩ := exists_showNode session analyzed names start
  obtain ⟨otherShown, otherAccepted, otherRows⟩ :=
    exists_showNode session otherAnalyzed otherNames begin
  rw [accepted, otherAccepted]
  refine .ok _ _ ?_
  show SucceedAlike _ (session.rowsOf shown.1) (session.rowsOf otherShown.1)
  rw [rows, otherRows]
  refine outcomes.bind ?_
  rintro ⟨first, rows⟩ ⟨second, otherRows⟩ ⟨names, otherNames, listing⟩
  have left := forall_left_of_forall₂ listing fun _ _ corresponds => corresponds.length
  have right := forall_left_of_forall₂ listing.flip fun _ _ corresponds => corresponds.otherLength
  obtain ⟨columns, shows⟩ := exists_showColumns session names left
  obtain ⟨otherColumns, otherShows⟩ := exists_showColumns session otherNames right
  rw [shows, otherShows]
  exact .ok _ _ (eq_of_forall₂ (forall₂_map listing fun _ _ => NamedExpr.shown_eq same again))

/-! ## Select lists with their orders -/

/-- **A select list of respelled items**, sorted by keys that read the same of them. -/
theorem Alike.projectSorted {aligned : Prop} (ignores : session.scope.IgnoresCase)
    {left right : Plan} (input : session.Alike aligned left right) {part other : Plan.GroupedPart}
    {keys others : List SortKey} (listed : part.columns ≠ [])
    (same : List.Forall₂ NamedExpr.Respelled part.columns other.columns)
    (items : Covering NamedExpr.SameExpr (part.columns ++ part.hidden)
      (other.columns ++ other.hidden))
    (sorting : List.Forall₂ (SortKey.SameColumn (part.columns ++ part.hidden)
      (other.columns ++ other.hidden)) keys others)
    (again : (part.hidden = [] ↔ other.hidden = []) ∨ Plan.DistinctNames part.columns) :
    session.SameRows (Plan.projectSorted part keys left)
      (Plan.projectSorted other others right) := by
  have otherListed : other.columns ≠ [] := by
    intro none
    rw [none] at same
    exact listed (List.forall₂_nil_right_iff.mp same)
  have projected := Lists.project ignores input items (List.append_ne_nil_of_left_ne_nil listed _)
    (List.append_ne_nil_of_left_ne_nil otherListed _)
  have sorted : session.Lists (part.columns ++ part.hidden) (other.columns ++ other.hidden)
      (Plan.sortBy keys (.project (part.columns ++ part.hidden) left))
      (Plan.sortBy others (.project (other.columns ++ other.hidden) right)) := by
    cases sorting with
    | nil => exact projected
    | cons here rest => exact projected.sort (.cons here rest)
  exact sorted.sameRows same listed again

/-- **A star over the same columns up to case**, sorted by respelled keys. -/
theorem Alike.starSorted (ignores : session.scope.IgnoresCase) {left right : Plan}
    (input : session.Alike True left right) {part other : Plan.GroupedPart}
    {keys others : List SortKey} (star : part.columns = [] ∧ part.hidden = [])
    (otherStar : other.columns = [] ∧ other.hidden = [])
    (sorting : List.Forall₂ SortKey.Respelled keys others) :
    session.SameRows (Plan.projectSorted part keys left)
      (Plan.projectSorted other others right) := by
  have none : List.Forall₂ NamedExpr.Respelled [] [] := .nil
  have projected := input.project ignores none fun _ => trivial
  simp only [Plan.projectSorted, star, otherStar, List.append_nil, List.isEmpty_nil, if_true]
  cases sorting with
  | nil => exact projected.sameRows
  | cons here rest => exact (projected.sort ignores (.cons here rest)).sameRows

end Session

end ScalarSql
