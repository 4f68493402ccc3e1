import ScalarSql.Proofs.Expr.Names
import ScalarSql.Proofs.Plan.Select

/-!
# Names of a select list in the other clauses

Every item of a select list is read twice: once for the name that it introduces, in the
scope of the names before it, and once for its column, in the scope of all names.  The
condition, the grouping keys and the condition on groups see what the first reading gave.

**Main result.**  `Plan.aliases_of_readSelect`: where names are told apart and are not
columns of the table, the two readings of an item agree if and only if each name in it that
the item itself or a later one introduces stands for the column of that name.  In
particular they agree where items only refer to earlier ones; an item that refers to itself
or to a later one means one thing in the select list and another thing everywhere else.
-/

set_option autoImplicit false

namespace ScalarSql

namespace NameScope

theorem alias?_define (scope : NameScope) (name other : String) (expr : Expr) :
    (scope.define name expr).alias? other
      = if scope.columns.contains (Text.lower other) then none
        else if Text.lower other = Text.lower name then some expr
        else scope.aliases.lookup (Text.lower other) := by
  simp only [alias?, define, List.lookup_cons]
  by_cases same : Text.lower other = Text.lower name
  · simp only [same, beq_self_eq_true, if_true]
  · simp only [beq_eq_false_iff_ne.mpr same, if_neg same]

/-- A name means what it meant before another one came in. -/
theorem alias?_define_of_ne {scope : NameScope} {name other : String} {expr : Expr}
    (apart : Text.lower other ≠ Text.lower name) :
    (scope.define name expr).alias? other = scope.alias? other := by
  rw [alias?_define, if_neg apart, alias?]

/-- A name that is no column stands for the expression that it was given last. -/
theorem alias?_define_self {scope : NameScope} {name : String} {expr : Expr}
    (fresh : Text.lower name ∉ scope.columns) :
    (scope.define name expr).alias? name = some expr := by
  rw [alias?_define, if_neg (by simpa using fresh), if_pos rfl]

end NameScope

namespace Plan

/-- The names that a select list introduces, in lower case. -/
def aliasKeys (items : List Syntax.SelectItem) : List String :=
  items.filterMap fun
    | .aliased _ name => some (Text.lower name.text)
    | _ => none

/-- The columns of the table that a select clause reads, in lower case. -/
def inputColumns (tableColumns : String → List String) (select : Syntax.Select) :
    List String :=
  match ofSources select.sources with
  | .ok source => (scannedColumns tableColumns source).map Text.lower
  | .error _ => []

/-- The scope in which the clauses of a select clause are read. -/
def scopeOf (tableColumns : String → List String) (select : Syntax.Select) :
    Except Error NameScope :=
  defineAliases { columns := inputColumns tableColumns select } select.items

/-- The parts of a select clause are read in a scope: all clauses but the order of the rows
see the same names. -/
structure ReadIn (scope : NameScope) (select : Syntax.Select) (parts : SelectParts) : Prop where
  condition : ∃ source condition, optionalExpr scope select.condition = .ok condition ∧
    parts.input = filterBy condition source
  keys : groupKeys scope select.grouping = .ok parts.keys
  columns : selectedColumns scope select.items = .ok parts.part.columns
  having : optionalExpr scope select.having = .ok parts.part.having

/-! ## Names before and after an item -/

section Define

variable {scope full : NameScope} {front back items : List Syntax.SelectItem}

theorem aliasKeys_append : aliasKeys (front ++ back) = aliasKeys front ++ aliasKeys back :=
  List.filterMap_append

theorem defineAliases_append :
    defineAliases scope (front ++ back)
      = defineAliases scope front >>= fun next => defineAliases next back := by
  induction front generalizing scope with
  | nil => rfl
  | cons item rest ih =>
      cases item with
      | aliased term name =>
          simp only [List.cons_append, defineAliases, ih, bind_assoc]
      | _ => exact ih

/-- **Names that a select list does not introduce** keep their meaning. -/
theorem of_defineAliases (defined : defineAliases scope items = .ok full) :
    full.columns = scope.columns ∧
      ∀ name, Text.lower name ∉ aliasKeys items → full.alias? name = scope.alias? name := by
  induction items generalizing scope with
  | nil =>
      cases defined
      exact ⟨rfl, fun _ _ => rfl⟩
  | cons item rest ih =>
      cases item with
      | aliased term introduced =>
          simp only [defineAliases, bind_eq_ok] at defined
          obtain ⟨expr, -, defined⟩ := defined
          obtain ⟨columns, others⟩ := ih defined
          refine ⟨columns, ?_⟩
          intro name unknown
          simp only [aliasKeys, List.filterMap_cons, List.mem_cons, not_or] at unknown
          rw [others name unknown.2, NameScope.alias?_define_of_ne unknown.1]
      | _ => exact ih defined

/-- **Reading an item for its name**: its term is read in the scope of the names before it,
and the name stands for the result. -/
theorem of_defineAliases_append {term : Syntax.Term} {name : Syntax.Name}
    (defined : defineAliases scope (front ++ .aliased term name :: back) = .ok full)
    (distinct : (aliasKeys (front ++ .aliased term name :: back)).Nodup)
    (fresh : ∀ key ∈ aliasKeys (front ++ .aliased term name :: back), key ∉ scope.columns) :
    ∃ before substituted, defineAliases scope front = .ok before ∧
      Expr.ofTerm before term = .ok substituted ∧ full.alias? name.text = some substituted ∧
      ∀ other, Text.lower other ∉ aliasKeys (.aliased term name :: back) →
        full.alias? other = before.alias? other := by
  rw [defineAliases_append, bind_eq_ok] at defined
  obtain ⟨before, frontDefined, defined⟩ := defined
  simp only [defineAliases, bind_eq_ok] at defined
  obtain ⟨substituted, termRead, backDefined⟩ := defined
  obtain ⟨beforeColumns, -⟩ := of_defineAliases frontDefined
  obtain ⟨-, others⟩ := of_defineAliases backDefined
  have introduced : Text.lower name.text ∈ aliasKeys (front ++ .aliased term name :: back) := by
    rw [aliasKeys_append]
    exact List.mem_append_right _ List.mem_cons_self
  have unique : Text.lower name.text ∉ aliasKeys back := by
    rw [aliasKeys_append] at distinct
    exact (List.nodup_cons.mp (List.nodup_append.mp distinct).2.1).1
  refine ⟨before, substituted, frontDefined, termRead, ?_, ?_⟩
  · rw [others name.text unique]
    refine NameScope.alias?_define_self ?_
    rw [beforeColumns]
    exact fresh _ introduced
  · intro other unknown
    simp only [aliasKeys, List.filterMap_cons, List.mem_cons, not_or] at unknown
    rw [others other unknown.2, NameScope.alias?_define_of_ne unknown.1]

end Define

/-! ## The two readings of an item -/

theorem getElem?_of_selectedColumns {scope : NameScope} {items : List Syntax.SelectItem}
    {columns : List NamedExpr} (selected : selectedColumns scope items = .ok columns)
    {position : Nat} {term : Syntax.Term} {name : Syntax.Name}
    (atPosition : items[position]? = some (.aliased term name)) :
    ∃ expr, Expr.ofTerm scope term = .ok expr ∧
      columns[position]? = some { expr, name := name.text } := by
  unfold selectedColumns at selected
  split at selected
  · cases position <;> cases atPosition
  · obtain ⟨column, found, read⟩ := getElem?_of_mapM selected atPosition
    obtain ⟨expr, termRead, rfl⟩ := map_eq_ok.mp read
    exact ⟨expr, termRead, found⟩

/-- A select clause is read in the scope of the names that its select list introduces, and
so is the order of its rows. -/
theorem readIn_of_readSelect {tableColumns : String → List String} {select : Syntax.Select}
    {order : List Syntax.OrderItem} {parts : SelectParts}
    (read : readSelect tableColumns select order = .ok parts) :
    ∃ scope, scopeOf tableColumns select = .ok scope ∧ ReadIn scope select parts ∧
      sortKeys scope parts.part.columns [] order = .ok (parts.sorting, parts.part.hidden) := by
  simp only [readSelect, bind_eq_ok] at read
  obtain ⟨source, sourceRead, scope, scopeRead, condition, conditionRead, keys, keysRead,
    selected, selectedRead, _, sortingRead, having, havingRead, same⟩ := read
  cases same
  refine ⟨scope, ?_, ⟨⟨source, condition, conditionRead, rfl⟩, keysRead, selectedRead,
    havingRead⟩, sortingRead⟩
  rw [scopeOf, inputColumns, sourceRead]
  exact scopeRead

/-- **Names mean the same in every clause** exactly as far as items refer to earlier ones.
Where the names of a select list are told apart and are not columns of the table, the
expression that the name of an item stands for in the other clauses is the one planned for
its column if and only if each name in the item that the item itself or a later one
introduces stands for the column of that name. -/
theorem aliases_of_readSelect {tableColumns : String → List String} {select : Syntax.Select}
    {order : List Syntax.OrderItem} {parts : SelectParts}
    (read : readSelect tableColumns select order = .ok parts)
    (distinct : (aliasKeys select.items).Nodup)
    (fresh : ∀ key ∈ aliasKeys select.items, key ∉ inputColumns tableColumns select) :
    ∃ scope, scopeOf tableColumns select = .ok scope ∧ ReadIn scope select parts ∧
      ∀ position term name, select.items[position]? = some (.aliased term name) →
        ∃ substituted selected,
          Expr.ofTerm scope (.identifier name) = .ok substituted ∧
          parts.part.columns[position]? = some { expr := selected, name := name.text } ∧
          (substituted = selected ↔ ∀ used ∈ term.names,
            Text.lower used.text ∈ aliasKeys (select.items.drop position) →
              scope.meaning used.text = .column used.text) := by
  obtain ⟨scope, defined, readIn, -⟩ := readIn_of_readSelect read
  refine ⟨scope, defined, readIn, ?_⟩
  intro position term name atPosition
  obtain ⟨selected, selectedRead, found⟩ := getElem?_of_selectedColumns readIn.columns atPosition
  -- The items before this one, this one, and those after it.
  obtain ⟨inRange, here⟩ := List.getElem?_eq_some_iff.mp atPosition
  have later : select.items.drop position
      = .aliased term name :: select.items.drop (position + 1) := by
    rw [List.drop_eq_getElem_cons inRange, here]
  have whole : select.items.take position
      ++ .aliased term name :: select.items.drop (position + 1) = select.items := by
    rw [← later, List.take_append_drop]
  obtain ⟨before, substituted, beforeDefined, beforeRead, standsFor, earlier⟩ :=
    of_defineAliases_append (by rwa [whole]) (by rwa [whole]) (by rwa [whole])
  refine ⟨substituted, selected, ?_, found, ?_⟩
  · rw [Expr.ofTerm, NameScope.meaning, standsFor, Option.getD_some]
  · rw [Expr.ofTerm_eq_iff term beforeRead selectedRead, later]
    refine forall₂_congr fun used _ => ?_
    by_cases forward : Text.lower used.text ∈ aliasKeys
        (.aliased term name :: select.items.drop (position + 1))
    · -- No name before the item is the used one, so that it is a column there.
      have notBefore : Text.lower used.text ∉ aliasKeys (select.items.take position) := by
        rw [← whole, aliasKeys_append] at distinct
        intro member
        exact (List.nodup_append.mp distinct).2.2 _ member _ forward rfl
      have plain : before.meaning used.text = .column used.text := by
        rw [NameScope.meaning, (of_defineAliases beforeDefined).2 used.text notBefore]
        simp only [NameScope.alias?, List.lookup_nil, ite_self, Option.getD_none]
      rw [plain]
      exact ⟨fun same _ => same.symm, fun column => (column forward).symm⟩
    · rw [NameScope.meaning, NameScope.meaning, earlier used.text forward]
      exact ⟨fun _ member => absurd member forward, fun _ => rfl⟩

/-- An item that refers to an earlier one means the same in every clause, and an item that
refers to a later one does not. -/
theorem aliases_of_readSelect_of_forward :
    let item := fun written aliasName : String =>
      Syntax.SelectItem.aliased (.identifier ⟨written, none⟩) ⟨aliasName, none⟩
    let select : Syntax.Select := {
      distinct := false
      items := [item "a" "x", item "x" "y", item "z" "w", item "b" "z"]
      sources := [{ source := .table [⟨"t", none⟩] none, joined := false, spelling := "t" }]
      condition := some (.identifier ⟨"w", none⟩)
      grouping := .terms []
      having := none }
    ∃ parts scope, readSelect (fun _ => ["a", "b"]) select [] = .ok parts ∧
      ReadIn scope select parts ∧
      (∃ expr, Expr.ofTerm scope (.identifier ⟨"y", none⟩) = .ok expr ∧
        parts.part.columns[1]? = some { expr, name := "y" }) ∧
      ∃ substituted selected, Expr.ofTerm scope (.identifier ⟨"w", none⟩) = .ok substituted ∧
        parts.part.columns[2]? = some { expr := selected, name := "w" } ∧
        substituted ≠ selected := by
  intro item select
  have read : readSelect (fun _ => ["a", "b"]) select [] = .ok _ := rfl
  obtain ⟨scope, defined, readIn, items⟩ :=
    aliases_of_readSelect read (by decide) (by decide)
  cases defined
  refine ⟨_, _, rfl, readIn, ?_, ?_⟩
  · obtain ⟨substituted, selected, standsFor, found, same⟩ := items 1 _ _ rfl
    have agree : substituted = selected := by
      refine same.mpr ?_
      intro used isName later
      cases List.mem_singleton.mp isName
      exact absurd later (by decide)
    exact ⟨selected, agree ▸ standsFor, found⟩
  · obtain ⟨substituted, selected, standsFor, found, same⟩ := items 2 _ _ rfl
    refine ⟨substituted, selected, standsFor, found, ?_⟩
    intro agree
    have column : Expr.column "b" = .column "z" :=
      same.mp agree ⟨"z", none⟩ (by decide) (by decide)
    exact absurd (Expr.column.inj column) (by decide)

end Plan

end ScalarSql
