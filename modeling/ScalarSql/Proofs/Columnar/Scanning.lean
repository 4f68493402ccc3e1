import ScalarSql.Proofs.Catalog
import ScalarSql.Proofs.Columnar.Places

/-!
# Scanned values

A cell that may stand in a column is read as a value of the type of the column.  Two functions
have to agree for that: one names the types of columns that queries handle, the other one reads
their cells.  The only cells that cannot be read are those with a decimal that has no counterpart,
because its scale or its integer is out of range, `ColumnType.read_exact`.

**Where decimals stand.**  A decimal counts at any depth, in records and in lists, but not inside
a part that is missing: nothing is reached there, `ColumnType.at?`.  A decimal that is reached is
read as the number that it denotes, at the place where it stands.
-/

set_option autoImplicit false

namespace ScalarSql

namespace Decimal

/-- Whether a decimal can have the integer and the scale. -/
def InBounds (raw scale : Int) : Prop := 0 ≤ scale ∧ scale ≤ 28 ∧ raw.natAbs < twoPow 96

instance (raw scale : Int) : Decidable (InBounds raw scale) :=
  inferInstanceAs (Decidable (_ ∧ _ ∧ _))

variable {raw scale : Int}

/-- **A decimal within bounds is read** as the number that it denotes. -/
theorem ofCell_of_inBounds (inBounds : InBounds raw scale) :
    ∃ d, ofCell raw scale = .ok d ∧ d.value = raw * (10 : ℚ) ^ (-scale) := by
  obtain ⟨nonneg, bound, magnitude⟩ := inBounds
  obtain ⟨digits, rfl⟩ := Int.eq_ofNat_of_zero_le nonneg
  have bound : digits ≤ 28 := Int.ofNat_le.mp bound
  obtain ⟨d, read, coefficient, scale⟩ := ofCell_eq_ok magnitude bound
  refine ⟨d, read, ?_⟩
  rw [value, coefficient, scale, zpow_neg, zpow_natCast, div_eq_mul_inv]
  exact congrArg (fun weight : ℚ => raw * weight⁻¹) (Nat.cast_pow 10 digits)

theorem ofCell_of_not_inBounds (outside : ¬ InBounds raw scale) :
    ∃ error, ofCell raw scale = .error error := by
  unfold ofCell
  split
  · exact ⟨_, rfl⟩
  · have noParts : ¬ (raw.natAbs < twoPow 96 ∧ scale.toNat ≤ 28) := by
      rw [InBounds] at outside
      omega
    rw [ofParts?, dif_neg noParts]
    exact ⟨_, rfl⟩

theorem not_inBounds_of_ofCell {error : Error} (refused : ofCell raw scale = .error error) :
    ¬ InBounds raw scale := by
  intro inBounds
  obtain ⟨d, read, -⟩ := ofCell_of_inBounds inBounds
  rw [read] at refused
  cases refused

end Decimal

namespace ColumnType

/-! ## Places in cells -/

/-- What stands at a place of a cell, with the type of the column that it stands in.  A place is a
list of positions, each of a member or of an item.  There is nothing inside a missing cell. -/
def at? : ColumnType → Cell → List Nat → Option (ColumnType × Cell)
  | type, cell, [] => some (type, cell)
  | .struct fields, .record members, position :: place =>
      fields[position]?.bind fun field =>
        members[position]?.bind fun member => at? field.2 member place
  | .list element, .list items, position :: place =>
      items[position]?.bind fun item => at? element item place
  | _, _, _ :: _ => none

variable {columnType : ColumnType} {cell : Cell} {raw scale : Int} {error : Error}

theorem at?_struct_eq_some {fields : List (String × ColumnType)} {position : Nat}
    {place : List Nat} {found : ColumnType × Cell} :
    (struct fields).at? cell (position :: place) = some found ↔
      ∃ members field member, cell = .record members ∧ fields[position]? = some field ∧
        members[position]? = some member ∧ field.2.at? member place = some found := by
  cases cell <;> simp [at?, Option.bind_eq_some_iff]

theorem at?_list_eq_some {element : ColumnType} {position : Nat} {place : List Nat}
    {found : ColumnType × Cell} :
    (list element).at? cell (position :: place) = some found ↔
      ∃ items item, cell = .list items ∧ items[position]? = some item ∧
        element.at? item place = some found := by
  cases cell <;> simp [at?, Option.bind_eq_some_iff]

/-- The decimal with the integer and the scale stands at some place. -/
def Reaches (columnType : ColumnType) (cell : Cell) (raw scale : Int) : Prop :=
  ∃ place precision, columnType.at? cell place = some (.decimal128 precision scale, .number raw)

/-! ## Reading at a place -/

/-- **What stands inside a cell** is read at its place. -/
theorem at?_read {place : List Nat} {inner : ColumnType} {part : Cell} {value : Value}
    (found : columnType.at? cell place = some (inner, part))
    (read : columnType.read cell = .ok value) :
    ∃ inside, value.at? place = some inside ∧ inner.read part = .ok inside := by
  induction place generalizing columnType cell value with
  | nil =>
      cases found
      exact ⟨value, rfl, read⟩
  | cons position place ih =>
      cases columnType with
      | struct fields =>
          obtain ⟨cells, field, member, rfl, inFields, inCells, inside⟩ :=
            at?_struct_eq_some.mp found
          obtain ⟨members, readEach, rfl⟩ := map_eq_ok.mp read
          obtain ⟨here, inMembers, readHere⟩ := getElem?_of_readMembers readEach inFields inCells
          obtain ⟨innermost, atPlace, readInner⟩ := ih inside readHere
          exact ⟨innermost, Option.bind_eq_some_iff.mpr ⟨_, inMembers, atPlace⟩, readInner⟩
      | list element =>
          obtain ⟨cells, item, rfl, inCells, inside⟩ := at?_list_eq_some.mp found
          obtain ⟨items, readEach, rfl⟩ := map_eq_ok.mp read
          obtain ⟨here, inItems, readHere⟩ := getElem?_of_readItems readEach inCells
          obtain ⟨innermost, atPlace, readInner⟩ := ih inside readHere
          exact ⟨innermost, Option.bind_eq_some_iff.mpr ⟨_, inItems, atPlace⟩, readInner⟩
      | _ => cases found

/-! ## Cells that cannot be read -/

mutual

/-- **Only decimals stand in the way** of reading a cell of a column that queries handle. -/
theorem reaches_of_read_error : ∀ (columnType : ColumnType) (cell : Cell) {type : DataType},
    columnType.toDataType = .ok type → columnType.holds cell = true →
      columnType.read cell = .error error →
        ∃ raw scale, columnType.Reaches cell raw scale ∧ Decimal.ofCell raw scale = .error error
  | .int16, _, _, handled, _, _ | .uint32, _, _, handled, _, _ | .float32, _, _, handled, _, _
  | .largeUtf8, _, _, handled, _, _ | .date32, _, _, handled, _, _
  | .null, _, _, handled, _, _ => by
      cases handled
  | .int32, cell, _, _, held, read | .int64, cell, _, _, held, read => by
      cases cell with
      | null => cases read
      | number value =>
          obtain ⟨number, inRange⟩ := Option.isSome_iff_exists.mp held
          simp only [ColumnType.read, inRange] at read
          cases read
      | _ => cases held
  | .float64, cell, _, _, held, read => by
      cases cell with
      | null | real _ => cases read
      | _ => cases held
  | .utf8, cell, _, _, held, read => by
      cases cell with
      | null | text _ => cases read
      | _ => cases held
  | .boolean, cell, _, _, held, read => by
      cases cell with
      | null | truth _ => cases read
      | _ => cases held
  | .decimal128 precision scale, cell, _, _, held, read => by
      cases cell with
      | null => cases read
      | number raw => exact ⟨raw, scale, ⟨[], precision, rfl⟩, map_eq_error.mp read⟩
      | _ => cases held
  | .struct fields, cell, type, handled, held, read => by
      obtain ⟨types, fieldsHandled, rfl⟩ := map_eq_ok.mp handled
      cases cell with
      | null => cases read
      | record members =>
          obtain ⟨position, field, member, inFields, inMembers, raw, scale, reached, refused⟩ :=
            reaches_of_readMembers_error fields members fieldsHandled held (map_eq_error.mp read)
          obtain ⟨place, precision, found⟩ := reached
          have whole := at?_struct_eq_some.mpr
            ⟨members, field, member, rfl, inFields, inMembers, found⟩
          exact ⟨raw, scale, ⟨position :: place, precision, whole⟩, refused⟩
      | _ => cases held
  | .list element, cell, type, handled, held, read => by
      obtain ⟨itemType, elementHandled, rfl⟩ := map_eq_ok.mp handled
      cases cell with
      | null => cases read
      | list items =>
          obtain ⟨position, item, inItems, raw, scale, ⟨place, precision, found⟩, refused⟩ :=
            reaches_of_readItems_error element items elementHandled held (map_eq_error.mp read)
          exact ⟨raw, scale, ⟨position :: place, precision,
            at?_list_eq_some.mpr ⟨items, item, rfl, inItems, found⟩⟩, refused⟩
      | _ => cases held

theorem reaches_of_readMembers_error : ∀ (fields : List (String × ColumnType)) (cells : List Cell)
    {types : List (String × DataType)}, fieldTypes fields = .ok types →
      holdsMembers fields cells = true → readMembers fields cells = .error error →
        ∃ (position : ℕ) (field : String × ColumnType) (cell : Cell),
          fields[position]? = some field ∧ cells[position]? = some cell ∧
            ∃ raw scale, field.2.Reaches cell raw scale ∧ Decimal.ofCell raw scale = .error error
  | [], _, _, _, _, read => by
      rw [readMembers] at read
      cases read
  | field :: fields, [], _, _, _, read => by
      simp only [readMembers] at read
      cases read
  | (name, columnType) :: fields, cell :: cells, types, handled, held, read => by
      rw [holdsMembers, Bool.and_eq_true] at held
      rw [fieldTypes] at handled
      split at handled
      · cases handled
      · next first firstHandled =>
          obtain ⟨others, restHandled, rfl⟩ := map_eq_ok.mp handled
          rw [readMembers] at read
          split at read
          · next refusal firstRead =>
              cases read
              exact ⟨0, _, cell, rfl, rfl,
                reaches_of_read_error columnType cell firstHandled held.1 firstRead⟩
          · next value firstRead =>
              obtain ⟨position, field, later, inFields, inCells, reached⟩ :=
                reaches_of_readMembers_error fields cells restHandled held.2 (map_eq_error.mp read)
              exact ⟨position + 1, field, later, inFields, inCells, reached⟩

theorem reaches_of_readItems_error : ∀ (element : ColumnType) (cells : List Cell)
    {type : DataType}, element.toDataType = .ok type →
      holdsItems element cells = true → readItems element cells = .error error →
        ∃ (position : ℕ) (cell : Cell), cells[position]? = some cell ∧
          ∃ raw scale, element.Reaches cell raw scale ∧ Decimal.ofCell raw scale = .error error
  | _, [], _, _, _, read => by
      rw [readItems] at read
      cases read
  | element, cell :: cells, type, handled, held, read => by
      rw [holdsItems, Bool.and_eq_true] at held
      rw [readItems] at read
      split at read
      · next refusal firstRead =>
          cases read
          exact ⟨0, cell, rfl, reaches_of_read_error element cell handled held.1 firstRead⟩
      · next value firstRead =>
          obtain ⟨position, later, inCells, reached⟩ :=
            reaches_of_readItems_error element cells handled held.2 (map_eq_error.mp read)
          exact ⟨position + 1, later, inCells, reached⟩

end

/-! ## Scanned values -/

/-- A decimal that is reached in a cell that is read is within bounds, and is read as its number. -/
theorem decimal_of_at? {place : List Nat} {precision : Nat} {value : Value}
    (found : columnType.at? cell place = some (.decimal128 precision scale, .number raw))
    (read : columnType.read cell = .ok value) :
    Decimal.InBounds raw scale ∧
      ∃ d, value.at? place = some (.decimal d) ∧ d.value = raw * (10 : ℚ) ^ (-scale) := by
  obtain ⟨inside, atPlace, readInside⟩ := at?_read found read
  obtain ⟨d, readDecimal, rfl⟩ := map_eq_ok.mp readInside
  have inBounds : Decimal.InBounds raw scale := by
    by_contra outside
    obtain ⟨error, refused⟩ := Decimal.ofCell_of_not_inBounds outside
    rw [readDecimal] at refused
    cases refused
  obtain ⟨same, readSame, number⟩ := Decimal.ofCell_of_inBounds inBounds
  cases readDecimal.symm.trans readSame
  exact ⟨inBounds, d, atPlace, number⟩

/-- **Scanned values have the declared type.**  A cell that may stand in a column is read as a
value of the type of the column, where every decimal that is reached is exactly the number that it
denotes.  It cannot be read if and only if a decimal out of bounds is reached, which the error is
about. -/
theorem read_exact (columnType : ColumnType) (cell : Cell) (type : DataType)
    (handled : columnType.toDataType = .ok type) (held : columnType.holds cell = true) :
    ((∃ value, columnType.read cell = .ok value) ↔
      ∀ raw scale, columnType.Reaches cell raw scale → Decimal.InBounds raw scale) ∧
    (∀ value, columnType.read cell = .ok value → value.hasType type = true ∧
      ∀ place precision raw scale,
        columnType.at? cell place = some (.decimal128 precision scale, .number raw) →
          ∃ d, value.at? place = some (.decimal d) ∧ d.value = raw * (10 : ℚ) ^ (-scale)) ∧
    ∀ error, columnType.read cell = .error error →
      ∃ raw scale, columnType.Reaches cell raw scale ∧ ¬ Decimal.InBounds raw scale ∧
        Decimal.ofCell raw scale = .error error := by
  have refusal : ∀ error, columnType.read cell = .error error →
      ∃ raw scale, columnType.Reaches cell raw scale ∧ ¬ Decimal.InBounds raw scale ∧
        Decimal.ofCell raw scale = .error error := by
    intro error refused
    obtain ⟨raw, scale, reached, unreadable⟩ :=
      reaches_of_read_error columnType cell handled held refused
    exact ⟨raw, scale, reached, Decimal.not_inBounds_of_ofCell unreadable, unreadable⟩
  have typed := read_sound columnType cell handled held
  refine ⟨⟨?_, fun inBounds => ?_⟩, fun value read => ⟨?_, ?_⟩, refusal⟩
  · rintro ⟨value, read⟩ raw scale ⟨place, precision, found⟩
    exact (decimal_of_at? found read).1
  · cases outcome : columnType.read cell with
    | ok value => exact ⟨value, rfl⟩
    | error error =>
        obtain ⟨raw, scale, reached, outside, -⟩ := refusal error outcome
        exact absurd (inBounds raw scale reached) outside
  · rwa [read] at typed
  · intro place precision raw scale found
    exact (decimal_of_at? found read).2

/-- A decimal with too large a scale does not matter inside a record that is missing. -/
theorem read_exact_of_missing :
    let columnType : ColumnType := .list (.struct [("price", .decimal128 38 2),
      ("discount", .struct [("rate", .decimal128 38 29)])])
    let readable : Cell := .list [.null, .record [.number (-1234), .null]]
    let unreadable : Cell := .list [.null, .record [.number (-1234), .record [.number 5]]]
    (columnType.holds readable = true ∧ ∃ value d, columnType.read readable = .ok value ∧
      value.hasType (.array (.struct [("price", .decimal), ("discount",
        .struct [("rate", .decimal)])])) = true ∧
      value.at? [1, 0] = some (.decimal d) ∧ d.value = -1234 / 100) ∧
    columnType.holds unreadable = true ∧ ¬ ∃ value, columnType.read unreadable = .ok value := by
  intro columnType readable unreadable
  have handled : columnType.toDataType = .ok (.array (.struct [("price", .decimal), ("discount",
      .struct [("rate", .decimal)])])) := rfl
  have held : columnType.holds readable = true := rfl
  have heldToo : columnType.holds unreadable = true := rfl
  obtain ⟨-, exact, -⟩ := read_exact columnType readable _ handled held
  obtain ⟨readableIff, -, -⟩ := read_exact columnType unreadable _ handled heldToo
  refine ⟨⟨held, ?_⟩, heldToo, fun read => ?_⟩
  · have read : ∃ value, columnType.read readable = .ok value := ⟨_, rfl⟩
    obtain ⟨value, read⟩ := read
    obtain ⟨typed, decimals⟩ := exact value read
    obtain ⟨d, atPlace, number⟩ := decimals [1, 0] 38 (-1234) 2 rfl
    exact ⟨value, d, read, typed, atPlace, by rw [number]; norm_num⟩
  · have inBounds := readableIff.mp read 5 29 ⟨[1, 1, 0], 38, rfl⟩
    exact absurd inBounds.2.1 (by decide)

end ColumnType

end ScalarSql
