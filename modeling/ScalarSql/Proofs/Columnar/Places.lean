import ScalarSql.Proofs.Columnar.Acceptance

/-!
# Places of exported values

What stands somewhere inside a value stands at the same place of its cell, `DataType.at?_cell`, and
at the same place of the value that the cell is read back as, `DataType.at?_read`.  So what export
does to the decimals of a result is what it does to each decimal on its own: it is rounded to the
fraction digits of cells, wherever it stands, and it comes back as the same number if and only if
it has no more digits, `QueryResult.toColumns_rounds`.
-/

set_option autoImplicit false

namespace ScalarSql

/-! ## Places -/

/-- The part of a cell at a place. -/
def Cell.at? : Cell → List Nat → Option Cell
  | cell, [] => some cell
  | .record members, position :: place => members[position]?.bind fun member => at? member place
  | .list items, position :: place => items[position]?.bind fun item => at? item place
  | _, _ :: _ => none

/-- The part of a value at a place, where members are counted as items are. -/
def Value.at? : Value → List Nat → Option Value
  | value, [] => some value
  | .struct members, position :: place =>
      members[position]?.bind fun member => at? member.2 place
  | .array items, position :: place => items[position]?.bind fun item => at? item place
  | _, _ :: _ => none

namespace ColumnType

/-! ## Parts of cells that are read -/

/-- The members that are read stand where their cells stand. -/
theorem getElem?_of_readMembers {fields : List (String × ColumnType)} {cells : List Cell}
    {members : List (String × Value)} {position : Nat} {field : String × ColumnType} {cell : Cell}
    (read : readMembers fields cells = .ok members) (inFields : fields[position]? = some field)
    (inCells : cells[position]? = some cell) :
    ∃ member, members[position]? = some (field.1, member) ∧ field.2.read cell = .ok member := by
  induction fields generalizing cells members position with
  | nil => cases inFields
  | cons first rest ih =>
      cases cells with
      | nil => cases inCells
      | cons firstCell others =>
          rw [readMembers] at read
          split at read
          · cases read
          · next value firstRead =>
              obtain ⟨later, restRead, rfl⟩ := map_eq_ok.mp read
              cases position with
              | zero =>
                  cases inFields
                  cases inCells
                  exact ⟨value, rfl, firstRead⟩
              | succ position =>
                  rw [List.getElem?_cons_succ] at inFields inCells
                  obtain ⟨member, inLater, readLater⟩ := ih restRead inFields inCells
                  exact ⟨member, inLater, readLater⟩

theorem getElem?_of_readItems {element : ColumnType} {cells : List Cell} {items : List Value}
    {position : Nat} {cell : Cell} (read : readItems element cells = .ok items)
    (here : cells[position]? = some cell) :
    ∃ item, items[position]? = some item ∧ element.read cell = .ok item := by
  induction cells generalizing items position with
  | nil => cases here
  | cons first rest ih =>
      rw [readItems] at read
      split at read
      · cases read
      · next item firstRead =>
          obtain ⟨others, restRead, rfl⟩ := map_eq_ok.mp read
          cases position with
          | zero =>
              cases here
              exact ⟨item, rfl, firstRead⟩
          | succ position =>
              obtain ⟨later, inOthers, readLater⟩ := ih restRead here
              exact ⟨later, inOthers, readLater⟩

end ColumnType

namespace DataType

variable {type declared : DataType} {value inner whole : Value}

/-- Only structures have members. -/
theorem cell_struct {fields : List (String × DataType)} {name : String} {member : Value}
    (inValue : value.field? name = some member) :
    (struct fields).cell value = .record (memberCells fields value) := by
  cases value with
  | struct members => rfl
  | _ => cases inValue

/-- **What stands inside a value** is found at its place in the cell. -/
theorem at?_cell {place : List Nat} (found : type.at? value place = some (declared, inner)) :
    (type.cell value).at? place = some (declared.cell inner) := by
  induction place generalizing type value with
  | nil =>
      cases found
      rfl
  | cons position place ih =>
      cases type with
      | struct fields =>
          obtain ⟨field, member, inFields, inValue, inside⟩ := at?_struct_eq_some.mp found
          have here : (memberCells fields value)[position]? = some (field.2.cell member) := by
            rw [memberCells_eq, List.getElem?_map, inFields, Option.map_some, part, inValue,
              Option.getD_some]
          rw [cell_struct inValue]
          exact Option.bind_eq_some_iff.mpr ⟨_, here, ih inside⟩
      | array element =>
          obtain ⟨items, item, rfl, inItems, inside⟩ := at?_array_eq_some.mp found
          have here : (items.map element.cell)[position]? = some (element.cell item) := by
            rw [List.getElem?_map, inItems, Option.map_some]
          exact Option.bind_eq_some_iff.mpr ⟨_, here, ih inside⟩
      | _ => cases found

/-! ## Reading -/

theorem ofFields_eq (fields : List (String × DataType)) :
    ColumnType.ofFields fields
      = fields.map fun field => (field.1, ColumnType.ofDataType field.2) := by
  induction fields with
  | nil => rfl
  | cons field rest ih => rw [ColumnType.ofFields, ih, List.map_cons]

/-- The members that are read stand where their fields stand. -/
theorem getElem?_of_readMemberCells {fields : List (String × DataType)}
    {members : List (String × Value)} {position : Nat} {field : String × DataType}
    (read : ColumnType.readMembers (ColumnType.ofFields fields) (memberCells fields value)
      = .ok members) (here : fields[position]? = some field) :
    ∃ back, members[position]? = some (field.1, back) ∧
      (ColumnType.ofDataType field.2).read (field.2.cell (part value field)) = .ok back := by
  have inColumns : (ColumnType.ofFields fields)[position]?
      = some (field.1, ColumnType.ofDataType field.2) := by
    rw [ofFields_eq, List.getElem?_map, here, Option.map_some]
  have inCells : (memberCells fields value)[position]?
      = some (field.2.cell (part value field)) := by
    rw [memberCells_eq, List.getElem?_map, here, Option.map_some]
  exact ColumnType.getElem?_of_readMembers read inColumns inCells

/-- **What stands inside a value** is read back at its place. -/
theorem at?_read {place : List Nat} (found : type.at? value place = some (declared, inner))
    (read : (ColumnType.ofDataType type).read (type.cell value) = .ok whole) :
    ∃ back, whole.at? place = some back ∧
      (ColumnType.ofDataType declared).read (declared.cell inner) = .ok back := by
  induction place generalizing type value whole with
  | nil =>
      cases found
      exact ⟨whole, rfl, read⟩
  | cons position place ih =>
      cases type with
      | struct fields =>
          obtain ⟨field, member, inFields, inValue, inside⟩ := at?_struct_eq_some.mp found
          rw [cell_struct inValue] at read
          obtain ⟨members, readEach, rfl⟩ := map_eq_ok.mp read
          obtain ⟨back, inMembers, readHere⟩ := getElem?_of_readMemberCells readEach inFields
          rw [part, inValue] at readHere
          obtain ⟨innermost, atPlace, readInner⟩ := ih inside readHere
          exact ⟨innermost, Option.bind_eq_some_iff.mpr ⟨_, inMembers, atPlace⟩, readInner⟩
      | array element =>
          obtain ⟨items, item, rfl, inItems, inside⟩ := at?_array_eq_some.mp found
          have here : (items.map element.cell)[position]? = some (element.cell item) := by
            rw [List.getElem?_map, inItems, Option.map_some]
          obtain ⟨restored, readEach, rfl⟩ := map_eq_ok.mp read
          obtain ⟨back, inRestored, readHere⟩ := ColumnType.getElem?_of_readItems readEach here
          obtain ⟨innermost, atPlace, readInner⟩ := ih inside readHere
          exact ⟨innermost, Option.bind_eq_some_iff.mpr ⟨_, inRestored, atPlace⟩, readInner⟩
      | _ => cases found

theorem readItems_isOk {element : ColumnType} {cells : List Cell}
    (each : ∀ cell ∈ cells, ∃ item, element.read cell = .ok item) :
    ∃ items, ColumnType.readItems element cells = .ok items := by
  induction cells with
  | nil => exact ⟨[], by rw [ColumnType.readItems]⟩
  | cons cell rest ih =>
      rw [List.forall_mem_cons] at each
      obtain ⟨item, read⟩ := each.1
      obtain ⟨items, restRead⟩ := ih each.2
      exact ⟨item :: items, by rw [ColumnType.readItems, read, restRead]; rfl⟩

/-- The cell of a value without parts is read back. -/
theorem read_scalarCell (basic : type.isBasic = true) (exportable : type.Exportable value) :
    ∃ back, (ColumnType.ofDataType type).read (type.cell value) = .ok back := by
  have typed : value.hasType type = true := takes_of_isBasic basic ▸ exportable.taken
  rw [cell_of_isBasic basic]
  cases value with
  | null => exact ⟨.null, by cases type <;> first | rfl | cases basic⟩
  | int number =>
      cases type <;> cases typed
      refine ⟨.int number, ?_⟩
      simp only [scalarCell, ColumnType.ofDataType, ColumnType.read, BoundedInt.ofInt?_val]
  | long number =>
      cases type <;> cases typed
      refine ⟨.long number, ?_⟩
      simp only [scalarCell, ColumnType.ofDataType, ColumnType.read, BoundedInt.ofInt?_val]
  | decimal d =>
      cases type <;> cases typed
      obtain ⟨restored, read, -⟩ := Decimal.read_toCell (exportable.room d ⟨[], rfl⟩)
      exact ⟨.decimal restored, congrArg (Except.map Value.decimal) read⟩
  | struct _ | array _ => cases type <;> first | cases typed | cases basic
  | _ =>
      cases type <;> cases typed
      exact ⟨_, rfl⟩

mutual

/-- **The cell of an exported value is read back**, unless a part of its type is unknown. -/
theorem read_cell : ∀ (type : DataType) (value : Value), type.hasUnresolved = false →
    type.Exportable value →
      ∃ whole, (ColumnType.ofDataType type).read (type.cell value) = .ok whole
  | .int, _, _, exportable | .long, _, _, exportable | .double, _, _, exportable
  | .string, _, _, exportable | .boolean, _, _, exportable | .decimal, _, _, exportable =>
      read_scalarCell rfl exportable
  | .struct fields, value, resolved, exportable => by
      obtain ⟨members, read⟩ :=
        read_memberCells fields value resolved (exportable_struct.mp exportable)
      rw [cell]
      split
      · exact ⟨.null, rfl⟩
      · exact ⟨.struct members, by rw [ColumnType.ofDataType, ColumnType.read, read]; rfl⟩
  | .array element, value, resolved, exportable => by
      cases value with
      | array items =>
          have each := exportable_array.mp exportable
          obtain ⟨restored, read⟩ : ∃ restored, ColumnType.readItems
              (ColumnType.ofDataType element) (items.map element.cell) = .ok restored :=
            readItems_isOk (List.forall_mem_map.mpr fun item member =>
              read_cell element item resolved (each item member))
          exact ⟨.array restored, by rw [cell, ColumnType.ofDataType, ColumnType.read, read]; rfl⟩
      | _ => exact ⟨.null, rfl⟩

theorem read_memberCells : ∀ (fields : List (String × DataType)) (value : Value),
    fieldsHaveUnresolved fields = false →
    (∀ field ∈ fields, field.2.Exportable (part value field)) →
      ∃ members, ColumnType.readMembers (ColumnType.ofFields fields) (memberCells fields value)
        = .ok members
  | [], _, _, _ => ⟨[], by rw [ColumnType.ofFields, ColumnType.readMembers]⟩
  | (name, type) :: fields, value, resolved, exportable => by
      rw [fieldsHaveUnresolved, Bool.or_eq_false_iff] at resolved
      rw [List.forall_mem_cons] at exportable
      obtain ⟨first, read⟩ := read_cell type (part value (name, type)) resolved.1 exportable.1
      obtain ⟨others, othersRead⟩ := read_memberCells fields value resolved.2 exportable.2
      rw [part] at read
      rw [ColumnType.ofFields, memberCells, ColumnType.readMembers, read, othersRead]
      exact ⟨(name, first) :: others, rfl⟩

end

end DataType

/-! ## Results -/

namespace QueryResult

variable {columns : List Column} {rows : List Row}

/-- Each value of an exported result has its cell. -/
theorem cell_of_toColumns {batch : ColumnBatch} (exported : toColumns ⟨columns, rows⟩ = .ok batch)
    {i j : Nat} {column : Column} {row : Row} {value : Value} (atColumn : columns[i]? = some column)
    (atRow : rows[j]? = some row) (atValue : row[i]? = some value) :
    column.type.Exportable value ∧ ∃ cells, batch.cells[i]? = some cells ∧
      cells[j]? = some (column.type.cell value) := by
  obtain ⟨_, encoded, rfl⟩ := map_eq_ok.mp exported
  obtain ⟨-, exportable, rfl⟩ := encodeColumns_eq_ok_iff.mp encoded
  have inColumns : columns.zipIdx[i]? = some (column, i) := by
    rw [List.getElem?_zipIdx, atColumn, Option.map_some, Nat.zero_add]
  have here : row.getD i .null = value := by
    rw [List.getD_eq_getElem?_getD, atValue, Option.getD_some]
  have exportableHere := exportable _ (List.mem_of_getElem? inColumns) row
    (List.mem_of_getElem? atRow)
  refine ⟨here ▸ exportableHere, rows.map fun row => column.type.cell (row.getD i .null), ?_, ?_⟩
  · rw [List.getElem?_map, inColumns, Option.map_some]
  · rw [List.getElem?_map, atRow, Option.map_some, here]

/-- **Nothing but decimals** stands in the way of a result whose columns can be stored and whose
values are taken: it is exported, or refused for a decimal without room. -/
theorem toColumns_of_taken (storable : ∀ column ∈ columns, column.type.isStorable = true)
    (taken : ∀ row ∈ rows,
      List.Forall₂ (fun value column => column.type.takes value = true) row columns) :
    (∃ batch, toColumns ⟨columns, rows⟩ = .ok batch) ∨
      ∃ (i : Nat) (column : Column) (row : Row) (value : Value) (d : Decimal),
        columns[i]? = some column ∧ row ∈ rows ∧ row[i]? = some value ∧
        column.type.Reaches value d ∧ ¬ d.HasRoom ∧ toColumns ⟨columns, rows⟩
          = .error (.schema (.decimalTooWide d.text exportPrecision exportScale)) := by
  have byPosition : ∀ entry ∈ columns.zipIdx, ∀ row ∈ rows,
      entry.1.type.takes (row.getD entry.2 .null) = true := by
    intro entry inColumns row inRows
    have width := (taken row inRows).length_eq
    exact (forall_mem_zipIdx_iff width fun column value => column.type.takes value = true).mpr
      (taken row inRows) entry inColumns
  have exports := exports_cellColumns storable byPosition
  generalize outcome : encodeColumns rows 0 columns = encoded at exports
  cases exports with
  | written room holds => exact .inl ⟨_, by rw [toColumns, outcome, map_ok]⟩
  | @refused d among wide =>
      obtain ⟨⟨column, i⟩, inColumns, row, inRows, reached⟩ := among
      have atColumn := List.mem_zipIdx_iff_getElem?.mp inColumns
      cases atValue : row[i]? with
      | none =>
          rw [List.getD_eq_getElem?_getD, atValue, Option.getD_none] at reached
          exact absurd reached DataType.not_reaches_null
      | some value =>
          rw [List.getD_eq_getElem?_getD, atValue, Option.getD_some] at reached
          refine .inr ⟨i, column, row, value, d, atColumn, inRows, atValue, reached, wide, ?_⟩
          rw [toColumns, outcome, Decimal.noRoom]
          rfl

/-- **Decimals are rounded without notice.**  In a result that is exported, a decimal that stands
at some place where `DECIMAL` is declared is read back as the closest decimal with the fraction
digits of cells, a half away from zero.  This is the same number if and only if the decimal has no
more digits.  If the columns can be stored and the values are taken, the result is exported, or
refused for a decimal without room. -/
theorem toColumns_rounds (columns : List Column) (rows : List Row) :
    (∀ (batch : ColumnBatch) (i j : Nat) (column : Column) (row : Row) (value : Value),
      toColumns ⟨columns, rows⟩ = .ok batch → columns[i]? = some column → rows[j]? = some row →
      row[i]? = some value →
        ∃ cells cell, batch.cells[i]? = some cells ∧ cells[j]? = some cell ∧
          (column.type.hasUnresolved = false →
            ∃ whole, (ColumnType.ofDataType column.type).read cell = .ok whole) ∧
          ∀ (place : List Nat) (d : Decimal),
            column.type.at? value place = some (.decimal, .decimal d) →
              ∃ inside restored, cell.at? place = some inside ∧
                (ColumnType.ofDataType .decimal).read inside = .ok (.decimal restored) ∧
                (∀ whole, (ColumnType.ofDataType column.type).read cell = .ok whole →
                  whole.at? place = some (.decimal restored)) ∧
                restored.value
                  = halfAway (d.value * (tenPow exportScale : ℕ)) / (tenPow exportScale : ℕ) ∧
                (d.sameNumber restored = true ↔
                  ∃ steps : ℤ, d.value = steps / (tenPow exportScale : ℕ))) ∧
    ((∀ column ∈ columns, column.type.isStorable = true) →
      (∀ row ∈ rows,
        List.Forall₂ (fun value column => column.type.takes value = true) row columns) →
      (∃ batch, toColumns ⟨columns, rows⟩ = .ok batch) ∨
        ∃ (i : Nat) (column : Column) (row : Row) (value : Value) (d : Decimal),
          columns[i]? = some column ∧ row ∈ rows ∧ row[i]? = some value ∧
          column.type.Reaches value d ∧ ¬ d.HasRoom ∧ toColumns ⟨columns, rows⟩
            = .error (.schema (.decimalTooWide d.text exportPrecision exportScale))) := by
  refine ⟨fun batch i j column row value exported atColumn atRow atValue => ?_,
    toColumns_of_taken⟩
  obtain ⟨exportable, cells, atCells, atCell⟩ := cell_of_toColumns exported atColumn atRow atValue
  refine ⟨cells, _, atCells, atCell,
    fun resolved => column.type.read_cell value resolved exportable, fun place d found => ?_⟩
  obtain ⟨restored, read, rounded, same⟩ := Decimal.read_toCell (exportable.room d ⟨place, found⟩)
  have readInside : (ColumnType.ofDataType .decimal).read (DataType.decimal.cell (.decimal d))
      = .ok (.decimal restored) := congrArg (Except.map Value.decimal) read
  refine ⟨_, restored, DataType.at?_cell found, readInside, fun whole readWhole => ?_, rounded,
    same⟩
  obtain ⟨back, atPlace, readBack⟩ := DataType.at?_read found readWhole
  rw [readInside] at readBack
  cases readBack
  exact atPlace

/-- Half a step of the last fraction digit is lost inside a structure, next to a decimal that comes
back, and a decimal that has no room for ten fraction digits is refused. -/
theorem toColumns_rounds_of_half :
    let half : Decimal := ⟨false, 5, 11, by decide, by decide⟩
    let price : Decimal := ⟨false, 150, 2, by decide, by decide⟩
    let wide : Decimal := ⟨false, twoPow 95, 0, by decide, by decide⟩
    let columns : List Column := [⟨"p", .struct [("x", .array .decimal)]⟩]
    let value : Value := .struct [("X", .array [.decimal half, .decimal price])]
    let batch : ColumnBatch := {
      columns := [("p", .struct [("x", .list (.decimal128 38 10))])]
      cells := [[.record [.list [.number 1, .number 15000000000]]]]
      size := 1 }
    toColumns ⟨columns, [[value]]⟩ = .ok batch ∧
      (∃ whole, (ColumnType.ofDataType (.struct [("x", .array .decimal)])).read
          (.record [.list [.number 1, .number 15000000000]]) = .ok whole ∧
        (∃ restored, whole.at? [0, 0] = some (.decimal restored) ∧
          restored.value = 1 / (tenPow exportScale : ℕ) ∧ half.sameNumber restored = false) ∧
        ∃ restored, whole.at? [0, 1] = some (.decimal restored) ∧
          price.sameNumber restored = true) ∧
      toColumns ⟨[⟨"d", .decimal⟩], [[.decimal wide]]⟩
        = .error (.schema (.decimalTooWide wide.text exportPrecision exportScale)) := by
  intro half price wide columns value batch
  have exported : toColumns ⟨columns, [[value]]⟩ = .ok batch := by
    unfold columns value batch half price
    rfl
  obtain ⟨cells, cell, atCells, atCell, readable, places⟩ :=
    (toColumns_rounds columns [[value]]).1 batch 0 0 _ _ _ exported rfl rfl rfl
  cases atCells
  cases atCell
  obtain ⟨whole, readWhole⟩ := readable rfl
  have sameName : Text.sameName "X" "x" = true := rfl
  refine ⟨exported, ⟨whole, readWhole, ?_, ?_⟩, ?_⟩
  · have found : (DataType.struct [("x", .array .decimal)]).at? value [0, 0]
        = some (.decimal, .decimal half) := by
      simp [value, DataType.at?, Value.field?, DataType.findNamed?, sameName]
    obtain ⟨_, restored, -, -, inWhole, rounded, same⟩ := places [0, 0] half found
    have steps : half.value * (tenPow exportScale : ℕ) = 1 / 2 := by
      norm_num [half, Decimal.value, Decimal.signedCoefficient, tenPow, exportScale]
    refine ⟨restored, inWhole whole readWhole, ?_, ?_⟩
    · rw [rounded, steps]
      norm_num [halfAway]
    · rw [← Bool.not_eq_true, same]
      rintro ⟨count, reached⟩
      rw [reached, div_mul_cancel₀ _ (by norm_num [tenPow])] at steps
      have doubled : (2 * count : ℚ) = (1 : ℤ) := by
        rw [steps]
        norm_num
      have even : 2 * count = 1 := by exact_mod_cast doubled
      omega
  · have found : (DataType.struct [("x", .array .decimal)]).at? value [0, 1]
        = some (.decimal, .decimal price) := by
      simp [value, DataType.at?, Value.field?, DataType.findNamed?, sameName]
    obtain ⟨_, restored, -, -, inWhole, -, same⟩ := places [0, 1] price found
    refine ⟨restored, inWhole whole readWhole, same.mpr ⟨15000000000, ?_⟩⟩
    norm_num [price, Decimal.value, Decimal.signedCoefficient, tenPow, exportScale]
  · have storable : ∀ column ∈ [Column.mk "d" .decimal], column.type.isStorable = true :=
      List.forall_mem_singleton.mpr rfl
    have taken : ∀ row ∈ [[Value.decimal wide]], List.Forall₂
        (fun value column => column.type.takes value = true) row [Column.mk "d" .decimal] :=
      List.forall_mem_singleton.mpr (.cons rfl .nil)
    rcases (toColumns_rounds _ _).2 storable taken with
      ⟨_, isOk⟩ | ⟨i, column, row, value, d, atColumn, inRows, atValue, reached, -, refused⟩
    · obtain ⟨exportable, -⟩ :=
        cell_of_toColumns (i := 0) (j := 0) isOk rfl rfl rfl
      have room := exportable.room wide ⟨[], rfl⟩
      exact absurd room (by unfold Decimal.HasRoom; decide)
    · cases List.mem_singleton.mp inRows
      cases i with
      | succ i => cases atColumn
      | zero =>
          cases atColumn
          cases atValue
          cases ((DataType.reaches_of_isBasic rfl).mp reached).2
          exact refused

end QueryResult

end ScalarSql
