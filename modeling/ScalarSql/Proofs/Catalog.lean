import ScalarSql.Catalog
import ScalarSql.Plan.Execution
import ScalarSql.Proofs.Computation
import ScalarSql.Proofs.Expr.Typing

/-!
# Stored tables fit their columns

A batch is well formed when each of its cells may stand in the column it stands in, which
is what a columnar store promises of the data it hands over.  A catalog is made of such
batches by registering and removing tables, `Catalog.Registered`.

**Invariant.**  Every batch of a stored table has the columns of the table and is well
formed, `Table.Consistent`.  Registering establishes this and removing keeps it, so it
holds of every catalog that comes about this way.

**Scans.**  Reading a consistent table gives rows that fit its columns or fails because a
stored decimal is out of range or has a negative scale.
-/

set_option autoImplicit false

namespace ScalarSql

/-! ## Well-formed batches -/

namespace ColumnType

mutual

/-- Whether a cell may stand in a column; what stands in columns that queries do not
handle does not matter. -/
def holds : ColumnType → Cell → Bool
  | _, .null => true
  | .int32, .number value => (BoundedInt.ofInt? value : Option (BoundedInt 32)).isSome
  | .int64, .number value => (BoundedInt.ofInt? value : Option (BoundedInt 64)).isSome
  | .float64, .real _ | .utf8, .text _ | .boolean, .truth _ | .decimal128 _ _, .number _ => true
  | .struct fields, .record members => holdsMembers fields members
  | .list element, .list items => holdsItems element items
  | .int16, _ | .uint32, _ | .float32, _ | .largeUtf8, _ | .date32, _ | .null, _ => true
  | _, _ => false

/-- Whether cells may stand in columns in order; cells beyond those given are missing. -/
def holdsMembers : List (String × ColumnType) → List Cell → Bool
  | (_, type) :: fields, cell :: cells => type.holds cell && holdsMembers fields cells
  | _, _ => true

/-- Whether all cells may stand in one column. -/
def holdsItems : ColumnType → List Cell → Bool
  | _, [] => true
  | element, item :: rest => element.holds item && holdsItems element rest

end

end ColumnType

/-- A batch whose cells may stand where they stand. -/
def Batch.WellFormed (batch : Batch) : Prop :=
  ∀ cells ∈ batch.rows, ColumnType.holdsMembers batch.columns cells = true

/-! ## Reading cells -/

namespace ColumnType

theorem hasType_of_missing {fields : List (String × ColumnType)}
    {types : List (String × DataType)} (handled : fieldTypes fields = .ok types) :
    Value.membersHaveType (fields.map fun field => (field.1, .null)) types = true := by
  induction fields generalizing types with
  | nil =>
      cases handled
      rfl
  | cons field rest ih =>
      obtain ⟨name, type⟩ := field
      simp only [fieldTypes] at handled
      split at handled
      · cases handled
      · obtain ⟨others, restHandled, rfl⟩ := map_eq_ok.mp handled
        simp [Value.membersHaveType, Text.sameName_refl, ih restHandled]

mutual

/-- A cell that may stand in a column is read as a value of the type of the column. -/
theorem read_sound : ∀ (columnType : ColumnType) (cell : Cell) {type : DataType},
    columnType.toDataType = .ok type → columnType.holds cell = true →
      Sound (Value.hasType · type) (columnType.read cell)
  | .int16, _, _, handled, _ | .uint32, _, _, handled, _ | .float32, _, _, handled, _
  | .largeUtf8, _, _, handled, _ | .date32, _, _, handled, _ | .null, _, _, handled, _ => by
      cases handled
  | .int32, cell, type, handled, held => by
      cases handled
      cases cell with
      | null => rfl
      | number value =>
          obtain ⟨number, inRange⟩ := Option.isSome_iff_exists.mp held
          simp only [read, inRange]
          rfl
      | _ => cases held
  | .int64, cell, type, handled, held => by
      cases handled
      cases cell with
      | null => rfl
      | number value =>
          obtain ⟨number, inRange⟩ := Option.isSome_iff_exists.mp held
          simp only [read, inRange]
          rfl
      | _ => cases held
  | .float64, cell, type, handled, held => by
      cases handled
      cases cell <;> first | rfl | cases held
  | .utf8, cell, type, handled, held => by
      cases handled
      cases cell <;> first | rfl | cases held
  | .boolean, cell, type, handled, held => by
      cases handled
      cases cell <;> first | rfl | cases held
  | .decimal128 precision scale, cell, type, handled, held => by
      cases handled
      cases cell with
      | null => rfl
      | number raw =>
          simp only [read, Decimal.ofCell]
          split
          · trivial
          · split <;> trivial
      | _ => cases held
  | .struct fields, cell, type, handled, held => by
      obtain ⟨types, fieldsHandled, rfl⟩ := map_eq_ok.mp handled
      cases cell with
      | null => rfl
      | record members =>
          simp only [read]
          exact (readMembers_sound fields members fieldsHandled held).map fun _ typed => typed
      | _ => cases held
  | .list element, cell, type, handled, held => by
      obtain ⟨itemType, elementHandled, rfl⟩ := map_eq_ok.mp handled
      cases cell with
      | null => rfl
      | list items =>
          simp only [read]
          exact (readItems_sound element items elementHandled held).map fun _ typed => typed
      | _ => cases held

/-- The members of a record are read as values of the types of its fields. -/
theorem readMembers_sound : ∀ (fields : List (String × ColumnType)) (cells : List Cell)
    {types : List (String × DataType)}, fieldTypes fields = .ok types →
      holdsMembers fields cells = true →
        Sound (Value.membersHaveType · types) (readMembers fields cells)
  | [], _, types, handled, _ => by
      cases handled
      simp [readMembers, Value.membersHaveType]
  | field :: fields, [], types, handled, _ => by
      simp only [readMembers]
      exact hasType_of_missing handled
  | (name, columnType) :: fields, cell :: cells, types, handled, held => by
      simp only [fieldTypes] at handled
      split at handled
      · cases handled
      · next first firstHandled =>
          obtain ⟨others, restHandled, rfl⟩ := map_eq_ok.mp handled
          simp only [holdsMembers, Bool.and_eq_true] at held
          have here := read_sound columnType cell firstHandled held.1
          have later := readMembers_sound fields cells restHandled held.2
          simp only [readMembers]
          cases value : columnType.read cell with
          | error error => rwa [value] at here
          | ok result =>
              rw [value] at here
              refine later.map fun members typed => ?_
              simp only [Value.membersHaveType, Text.sameName_refl, Bool.true_and,
                Bool.and_eq_true]
              exact ⟨here, typed⟩

/-- The items of a list are read as values of the type of its element. -/
theorem readItems_sound : ∀ (element : ColumnType) (cells : List Cell) {type : DataType},
    element.toDataType = .ok type → holdsItems element cells = true →
      Sound (Value.itemsHaveType · type) (readItems element cells)
  | _, [], _, _, _ => rfl
  | element, cell :: cells, type, handled, held => by
      simp only [holdsItems, Bool.and_eq_true] at held
      have here := read_sound element cell handled held.1
      have later := readItems_sound element cells handled held.2
      simp only [readItems]
      cases value : element.read cell with
      | error error => rwa [value] at here
      | ok result =>
          rw [value] at here
          refine later.map fun items typed => ?_
          simp only [Value.itemsHaveType, Bool.and_eq_true]
          exact ⟨here, typed⟩

end

end ColumnType

/-! ## Reading rows -/

namespace Batch

/-- A stored row is read as a row that fits the columns. -/
theorem readRow_sound {stored : List (String × ColumnType)} {columns : List Column}
    {cells : List Cell} (handled : Table.columnsOf stored = .ok columns)
    (held : ColumnType.holdsMembers stored cells = true) :
    Sound (Row.Fits columns) (readRow stored cells) := by
  induction stored generalizing columns cells with
  | nil =>
      cases handled
      exact .nil
  | cons field rest ih =>
      obtain ⟨name, columnType⟩ := field
      simp only [Table.columnsOf] at handled
      split at handled
      · cases handled
      · next type typeHandled =>
          obtain ⟨others, restHandled, rfl⟩ := map_eq_ok.mp handled
          have here : Sound (Value.hasType · type) (columnType.read (cells.headD .null)) := by
            refine ColumnType.read_sound columnType _ typeHandled ?_
            cases cells with
            | nil => cases columnType <;> rfl
            | cons cell cells =>
                simp only [ColumnType.holdsMembers, Bool.and_eq_true] at held
                exact held.1
          have later : Sound (Row.Fits others) (readRow rest cells.tail) := by
            refine ih restHandled ?_
            cases cells with
            | nil => cases rest <;> rfl
            | cons cell cells =>
                simp only [ColumnType.holdsMembers, Bool.and_eq_true] at held
                exact held.2
          simp only [readRow]
          cases value : columnType.read (cells.headD .null) with
          | error error => rwa [value] at here
          | ok result =>
              rw [value] at here
              exact later.map fun row fits => .cons here fits

theorem readRows_sound {stored : List (String × ColumnType)} {columns : List Column}
    {rows : List (List Cell)} (handled : Table.columnsOf stored = .ok columns)
    (held : ∀ cells ∈ rows, ColumnType.holdsMembers stored cells = true) :
    Sound (∀ row ∈ ·, Row.Fits columns row) (readRows stored rows) := by
  induction rows with
  | nil => exact fun _ member => nomatch member
  | cons cells rest ih =>
      obtain ⟨first, others⟩ := List.forall_mem_cons.mp held
      have here := readRow_sound handled first
      simp only [readRows]
      cases row : readRow stored cells with
      | error error => rwa [row] at here
      | ok result =>
          rw [row] at here
          exact (ih others).map fun rows fit => List.forall_mem_cons.mpr ⟨here, fit⟩

end Batch

/-! ## Consistent tables -/

/-- Every batch has the columns of the table and is well formed. -/
def Table.Consistent (table : Table) : Prop :=
  ∀ batch ∈ table.batches, Table.columnsOf batch.columns = .ok table.columns ∧ batch.WellFormed

/-- Reading the batches of a consistent table gives rows that fit its columns. -/
theorem readBatches_sound {columns : List Column} {batches : List Batch}
    (consistent : ∀ batch ∈ batches,
      Table.columnsOf batch.columns = .ok columns ∧ batch.WellFormed) :
    Sound (fun runs => ∀ rows ∈ runs, ∀ row ∈ rows, Row.Fits columns row)
      (readBatches batches) := by
  induction batches with
  | nil => exact fun _ member => nomatch member
  | cons batch rest ih =>
      obtain ⟨⟨handled, wellFormed⟩, others⟩ := List.forall_mem_cons.mp consistent
      have here := Batch.readRows_sound handled wellFormed
      simp only [readBatches, Batch.read]
      cases rows : Batch.readRows batch.columns batch.rows with
      | error error => rwa [rows] at here
      | ok result =>
          rw [rows] at here
          exact (ih others).map fun runs fit => List.forall_mem_cons.mpr ⟨here, fit⟩

/-! ## Registered catalogs -/

namespace ColumnType

mutual

theorem eq_of_same : ∀ left right : ColumnType, same left right = true → left = right
  | .int16, right | .int32, right | .int64, right | .uint32, right | .float32, right
  | .float64, right | .utf8, right | .largeUtf8, right | .boolean, right | .date32, right
  | .null, right => by cases right <;> simp [same]
  | .decimal128 precision scale, right => by cases right <;> simp_all [same]
  | .struct left, right => by
      cases right with
      | struct right => exact fun agree => congrArg _ (eq_of_sameFields left right agree)
      | _ => simp [same]
  | .list left, right => by
      cases right with
      | list right => exact fun agree => congrArg _ (eq_of_same left right agree)
      | _ => simp [same]

theorem eq_of_sameFields : ∀ left right : List (String × ColumnType),
    sameFields left right = true → left = right
  | [], right => by cases right <;> simp [sameFields]
  | _ :: _, [] => by simp [sameFields]
  | (_, leftType) :: left, (_, rightType) :: right => by
      intro agree
      simp only [sameFields, Bool.and_eq_true, beq_iff_eq] at agree
      rw [agree.1.1, eq_of_same leftType rightType agree.1.2, eq_of_sameFields left right agree.2]

end

end ColumnType

/-- A table holds the batches that it is made of, which all have its columns. -/
theorem Table.of_ofBatches {name : String} {batches : List Batch} {table : Table}
    (made : Table.ofBatches name batches = .ok table) :
    table.batches = batches ∧
      ∀ batch ∈ batches, Table.columnsOf batch.columns = .ok table.columns := by
  cases batches with
  | nil => cases made
  | cons first rest =>
      simp only [ofBatches] at made
      split at made
      · next agree =>
          obtain ⟨columns, handled, rfl⟩ := map_eq_ok.mp made
          refine ⟨rfl, fun batch member => ?_⟩
          rcases List.mem_cons.mp member with rfl | later
          · exact handled
          · have agrees := List.all_eq_true.mp agree batch later
            rw [ColumnType.eq_of_sameFields _ _ agrees]
            exact handled
      · cases made

/-- A table made of well-formed batches is consistent. -/
theorem Table.consistent_of_ofBatches {name : String} {batches : List Batch} {table : Table}
    (wellFormed : ∀ batch ∈ batches, batch.WellFormed)
    (made : Table.ofBatches name batches = .ok table) : table.Consistent := by
  obtain ⟨rfl, handled⟩ := Table.of_ofBatches made
  exact fun batch member => ⟨handled batch member, wellFormed batch member⟩

namespace Catalog

/-- The catalogs that come about by registering and removing tables. -/
inductive Registered : Catalog → Prop
  | empty : Registered {}
  | register {catalog extended : Catalog} {name : String} {batches : List Batch}
      (registered : Registered catalog) (wellFormed : ∀ batch ∈ batches, batch.WellFormed)
      (stored : catalog.register name batches = .ok extended) : Registered extended
  | erase {catalog : Catalog} (name : String) (registered : Registered catalog) :
      Registered (catalog.erase name)

/-- **Every registered table is consistent.** -/
theorem Registered.consistent {catalog : Catalog} (registered : catalog.Registered) :
    ∀ entry ∈ catalog.tables, entry.2.Consistent := by
  induction registered with
  | empty => exact fun _ member => nomatch member
  | register _ wellFormed stored ih =>
      obtain ⟨table, made, rfl⟩ := map_eq_ok.mp stored
      refine List.forall_mem_cons.mpr ⟨Table.consistent_of_ofBatches wellFormed made, ?_⟩
      exact fun entry member => ih entry (List.mem_of_mem_filter member)
  | erase name _ ih => exact fun entry member => ih entry (List.mem_of_mem_filter member)

/-- The table that a name stands for is consistent. -/
theorem Registered.table_consistent {catalog : Catalog} {name : String} {table : Table}
    (registered : catalog.Registered) (found : catalog.table name = .ok table) :
    table.Consistent := by
  unfold Catalog.table at found
  split at found
  · next stored =>
      cases found
      obtain ⟨front, back, tables, -⟩ := List.lookup_eq_some_iff.mp stored
      exact registered.consistent (_, table) (tables ▸ List.mem_append_cons_self)
  · cases found

end Catalog

end ScalarSql
