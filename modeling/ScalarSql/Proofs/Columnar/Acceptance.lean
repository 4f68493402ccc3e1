import ScalarSql.Proofs.Columnar.Rounding
import ScalarSql.Proofs.Columnar.RoundTrip

/-!
# What export accepts

A result is exported column by column, and every part of a structure and all items of arrays
become columns of their own.  `DataType.cell` exports one value, and a column holds the cells of
its values, `DataType.exports_cells`, unless it is refused.

**Taken values.**  A column without parts only takes the values of its type, and an array is taken
with its items.  Nothing is asked of a structure itself: its members are looked up under the
names of the fields, so that a missing or misnamed member counts as `NULL`, a member too many is
passed over, and a value that is no structure has no members at all.  An untyped column takes
everything.  `DataType.takes` is this relation, and `DataType.taken_of_encode` says that export
checks nothing less.

**Matching values.**  So export accepts values that do not match their type, and writes `NULL` for
what it does not find.  `QueryResult.toColumns_accepts` says when a result is exported, that
matching values are always taken, and that the types for which only matching values are taken are
those without structures and without untyped parts.
-/

set_option autoImplicit false

namespace ScalarSql

namespace DataType

/-! ## Export of one value -/

mutual

/-- Whether every structure in the type has a field, without which it has no column. -/
def isStorable : DataType → Bool
  | .struct fields => !fields.isEmpty && fieldsAreStorable fields
  | .array element => element.isStorable
  | _ => true

/-- Whether every structure in the types of fields has a field. -/
def fieldsAreStorable : List (String × DataType) → Bool
  | [] => true
  | (_, type) :: rest => type.isStorable && fieldsAreStorable rest

end

mutual

/-- Whether a value is exported to a column of the type, if there is room for its decimals. -/
def takes : DataType → Value → Bool
  | .struct fields, value => fieldsTake fields value
  | .array element, .array items => items.all fun item => element.takes item
  | .array _, value => value.isNull
  | .unresolved, _ => true
  | type, value => value.hasType type

/-- Whether what a value has under the names of fields is exported. -/
def fieldsTake : List (String × DataType) → Value → Bool
  | [], _ => true
  | (name, type) :: rest, value =>
      type.takes ((value.field? name).getD .null) && fieldsTake rest value

end

/-- The cell of a value without parts. -/
def scalarCell : Value → Cell
  | .int number => .number number.val
  | .long number => .number number.val
  | .double number => .real number
  | .string text => .text text
  | .boolean truth => .truth truth
  | .decimal number => .number (number.rescale exportScale).signedCoefficient
  | _ => .null

mutual

/-- The cell that a value is exported to in a column of the type. -/
def cell : DataType → Value → Cell
  | .struct fields, value => if value.isNull then .null else .record (memberCells fields value)
  | .array element, .array items => .list (items.map fun item => element.cell item)
  | .array _, _ => .null
  | .unresolved, _ => .null
  | _, value => scalarCell value

/-- The cells of what a value has under the names of fields. -/
def memberCells : List (String × DataType) → Value → List Cell
  | [], _ => []
  | (name, type) :: rest, value =>
      type.cell ((value.field? name).getD .null) :: memberCells rest value

end

variable {type : DataType} {fields : List (String × DataType)} {value : Value}

theorem isStorable_struct : (struct fields).isStorable = true ↔
    fields ≠ [] ∧ ∀ field ∈ fields, field.2.isStorable = true := by
  have each : fieldsAreStorable fields = true ↔ ∀ field ∈ fields, field.2.isStorable = true := by
    induction fields with
    | nil => exact ⟨fun _ => nofun, fun _ => rfl⟩
    | cons field rest ih => rw [fieldsAreStorable, Bool.and_eq_true, ih, List.forall_mem_cons]
  rw [isStorable, Bool.and_eq_true, each, Bool.not_eq_true', List.isEmpty_eq_false_iff]

theorem takes_struct : (struct fields).takes value = true ↔
    ∀ field ∈ fields, field.2.takes (part value field) = true := by
  rw [takes]
  induction fields with
  | nil => exact ⟨fun _ => nofun, fun _ => rfl⟩
  | cons field rest ih => rw [fieldsTake, Bool.and_eq_true, ih, List.forall_mem_cons, part]

theorem memberCells_eq (fields : List (String × DataType)) (value : Value) :
    memberCells fields value = fields.map fun field => field.2.cell (part value field) := by
  induction fields with
  | nil => rfl
  | cons field rest ih => rw [memberCells, ih, List.map_cons, part]

theorem takes_of_isBasic (basic : type.isBasic = true) :
    type.takes value = value.hasType type := by
  cases type <;> first | rfl | cases basic

theorem cell_of_isBasic (basic : type.isBasic = true) : type.cell value = scalarCell value := by
  cases type <;> first | rfl | cases basic

mutual

/-- `NULL` is always taken. -/
theorem takes_null : ∀ type : DataType, type.takes .null = true
  | .struct fields => fieldsTake_null fields
  | .int | .long | .double | .string | .boolean | .decimal | .array _ | .unresolved => rfl

theorem fieldsTake_null : ∀ fields : List (String × DataType), fieldsTake fields .null = true
  | [] => rfl
  | (_, type) :: rest => by
      rw [fieldsTake, fieldsTake_null rest, Bool.and_true]
      exact takes_null type

end

/-! ## Places -/

/-- What stands at a place of a value, with the type that is declared there.  A place is a list of
positions, each of a field, whose name is looked up, or of an item. -/
def at? : DataType → Value → List Nat → Option (DataType × Value)
  | type, value, [] => some (type, value)
  | .struct fields, value, position :: place =>
      fields[position]?.bind fun field =>
        (value.field? field.1).bind fun member => at? field.2 member place
  | .array element, .array items, position :: place =>
      items[position]?.bind fun item => at? element item place
  | _, _, _ :: _ => none

/-- The decimal stands at some place where `DECIMAL` is declared. -/
def Reaches (type : DataType) (value : Value) (d : Decimal) : Prop :=
  ∃ place, type.at? value place = some (.decimal, .decimal d)

theorem at?_struct_eq_some {position : Nat} {place : List Nat} {found : DataType × Value} :
    (struct fields).at? value (position :: place) = some found ↔
      ∃ field member, fields[position]? = some field ∧ value.field? field.1 = some member ∧
        field.2.at? member place = some found := by
  simp only [at?, Option.bind_eq_some_iff, exists_and_left]

theorem at?_array_eq_some {element : DataType} {position : Nat} {place : List Nat}
    {found : DataType × Value} :
    (array element).at? value (position :: place) = some found ↔
      ∃ items item, value = .array items ∧ items[position]? = some item ∧
        element.at? item place = some found := by
  cases value <;> simp [at?, Option.bind_eq_some_iff]

variable {d : Decimal}

theorem reaches_of_isBasic (basic : type.isBasic = true) :
    type.Reaches value d ↔ type = .decimal ∧ value = .decimal d := by
  constructor
  · rintro ⟨place, found⟩
    cases place with
    | nil => exact Prod.mk.inj (Option.some.inj found)
    | cons position place => cases type <;> first | cases found | cases basic
  · rintro ⟨rfl, rfl⟩
    exact ⟨[], rfl⟩

theorem not_reaches_unresolved : ¬ unresolved.Reaches value d := by
  rintro ⟨place, found⟩
  cases place <;> cases found

/-- There is nothing inside `NULL`. -/
theorem not_reaches_null : ¬ type.Reaches .null d := by
  rintro ⟨place, found⟩
  cases place with
  | nil => cases found
  | cons position place =>
      cases type with
      | struct fields =>
          obtain ⟨_, _, -, missing, -⟩ := at?_struct_eq_some.mp found
          cases missing
      | _ => cases found

theorem reaches_struct :
    (struct fields).Reaches value d ↔ ∃ field ∈ fields, field.2.Reaches (part value field) d := by
  constructor
  · rintro ⟨place, found⟩
    cases place with
    | nil => cases found
    | cons position place =>
        obtain ⟨field, member, inFields, inValue, inside⟩ := at?_struct_eq_some.mp found
        refine ⟨field, List.mem_of_getElem? inFields, place, ?_⟩
        rwa [part, inValue, Option.getD_some]
  · rintro ⟨field, inFields, place, inside⟩
    obtain ⟨position, atPosition⟩ := List.mem_iff_getElem?.mp inFields
    cases inValue : value.field? field.1 with
    | none =>
        rw [part, inValue, Option.getD_none] at inside
        exact absurd ⟨place, inside⟩ not_reaches_null
    | some member =>
        rw [part, inValue, Option.getD_some] at inside
        exact ⟨position :: place,
          at?_struct_eq_some.mpr ⟨field, member, atPosition, inValue, inside⟩⟩

theorem reaches_array {element : DataType} : (array element).Reaches value d ↔
    ∃ items, value = .array items ∧ ∃ item ∈ items, element.Reaches item d := by
  constructor
  · rintro ⟨place, found⟩
    cases place with
    | nil => cases found
    | cons position place =>
        obtain ⟨items, item, isArray, inItems, inside⟩ := at?_array_eq_some.mp found
        exact ⟨items, isArray, item, List.mem_of_getElem? inItems, place, inside⟩
  · rintro ⟨items, isArray, item, inItems, place, inside⟩
    obtain ⟨position, atPosition⟩ := List.mem_iff_getElem?.mp inItems
    exact ⟨position :: place,
      at?_array_eq_some.mpr ⟨items, item, isArray, atPosition, inside⟩⟩

/-! ## Columns -/

/-! ### Single values -/

/-- A value without parts is written into its cell, unless it is a decimal without room. -/
theorem exports_scalarCell (basic : type.isBasic = true) (typed : value.hasType type = true) :
    Exports (type.Reaches value) (· = type.cell value) (encodeScalar type value) := by
  rw [cell_of_isBasic basic]
  by_cases decimal : type = .decimal ∧ ∃ d, value = .decimal d
  · obtain ⟨rfl, d, rfl⟩ := decimal
    rw [encodeScalar]
    have reached : decimal.Reaches (.decimal d) d := ⟨[], rfl⟩
    by_cases room : d.HasRoom
    · rw [Decimal.toCell_eq_ok room]
      refine .written (fun other isReached => ?_) rfl
      obtain ⟨-, same⟩ := (reaches_of_isBasic basic).mp isReached
      exact Value.decimal.inj same ▸ room
    · rw [Decimal.toCell_eq_error room]
      exact .refused reached room
  · have plain : encodeScalar type value = .ok (scalarCell value) := by
      cases type <;> cases basic <;> cases value <;> cases typed <;>
        first | rfl | exact absurd ⟨rfl, _, rfl⟩ decimal
    rw [plain]
    refine .written (fun d reached => absurd ?_ decimal) rfl
    obtain ⟨isDecimal, same⟩ := (reaches_of_isBasic basic).mp reached
    exact ⟨isDecimal, d, same⟩

theorem exports_scalarCells (basic : type.isBasic = true) {values : List Value}
    (typed : ∀ value ∈ values, value.hasType type = true) :
    Exports (fun d => ∃ value ∈ values, type.Reaches value d) (· = values.map type.cell)
      (encodeEach (encodeScalar type) values) := by
  induction values with
  | nil => exact .written (by simp) rfl
  | cons value rest ih =>
      rw [List.forall_mem_cons] at typed
      rw [encodeEach_cons]
      refine ((exports_scalarCell basic typed.1).both (ih typed.2) ?_).congr fun d => ?_
      · rintro _ _ rfl rfl
        rfl
      · simp only [List.mem_cons, exists_eq_or_imp]

/-- Only values of the type are written without parts. -/
theorem hasType_of_encodeScalar {written : Cell}
    (encoded : encodeScalar type value = .ok written) (basic : type.isBasic = true) :
    value.hasType type = true := by
  cases type <;> cases basic <;> cases value <;> first | rfl | cases encoded

theorem hasType_of_encodeEach (basic : type.isBasic = true) {values : List Value}
    {cells : List Cell} (encoded : encodeEach (encodeScalar type) values = .ok cells) :
    ∀ value ∈ values, value.hasType type = true := by
  induction values generalizing cells with
  | nil => exact nofun
  | cons value rest ih =>
      rw [encodeEach_cons] at encoded
      obtain ⟨cell, here, later⟩ := bind_eq_ok.mp encoded
      obtain ⟨cells, others, -⟩ := map_eq_ok.mp later
      exact List.forall_mem_cons.mpr ⟨hasType_of_encodeScalar here basic, ih others⟩

/-! ### Structures -/

/-- The records of a column are the members value by value. -/
theorem zipWith_memberCells (fields : List (String × DataType)) (values : List Value) :
    List.zipWith (fun (value : Value) (record : List Cell) =>
        if value.isNull then Cell.null else Cell.record record) values
      (values.map (memberCells fields)) = values.map (struct fields).cell := by
  rw [List.zipWith_map_right, List.zipWith_self]
  exact List.map_congr_left fun value _ => by rw [cell]

/-! ### Arrays -/

/-- A column of arrays has arrays in it and `NULL`. -/
theorem arrayItems_eq_ok_iff {values : List Value} {groups : List (Option (List Value))} :
    arrayItems type values = .ok groups ↔
      (∀ value ∈ values, value = .null ∨ ∃ items, value = .array items) ∧
        groups = values.map items? := by
  induction values generalizing groups with
  | nil =>
      rw [arrayItems]
      simp [eq_comm]
  | cons value rest ih =>
      rw [List.forall_mem_cons, List.map_cons]
      cases value with
      | null | array _ =>
          rw [arrayItems, map_eq_ok]
          simp only [ih, items?]
          grind
      | _ => simp [arrayItems]

/-- **Lists are cut out again** by the lengths of the arrays. -/
theorem regroup_cells {element : DataType} (values : List Value) :
    regroup (values.map items?) ((gathered values).map element.cell)
      = values.map (array element).cell := by
  induction values with
  | nil => rfl
  | cons value rest ih =>
      have others : gathered (value :: rest) = (items? value).getD [] ++ gathered rest := rfl
      rw [others, List.map_append, List.map_cons, List.map_cons]
      cases value with
      | array items =>
          have length : items.length = (items.map element.cell).length := by rw [List.length_map]
          rw [items?, regroup, Option.getD_some, length, List.take_left, List.drop_left, ih, cell]
      | _ => exact congrArg (Cell.null :: ·) ih

/-! ### Types -/

/-- The items of arrays that a column takes are taken one by one. -/
theorem takes_array {element : DataType} : (array element).takes value = true ↔
    (value = .null ∨ ∃ items, value = .array items) ∧
      ∀ items, value = .array items → ∀ item ∈ items, element.takes item = true := by
  cases value <;> simp [takes, Value.isNull]

theorem takes_gathered {element : DataType} {values : List Value} :
    (∀ value ∈ values, (array element).takes value = true) ↔
      (∀ value ∈ values, value = .null ∨ ∃ items, value = .array items) ∧
        ∀ item ∈ gathered values, element.takes item = true := by
  simp only [takes_array, forall_and, mem_gathered]
  grind

theorem reaches_gathered {element : DataType} {values : List Value} :
    (∃ item ∈ gathered values, element.Reaches item d) ↔
      ∃ value ∈ values, (array element).Reaches value d := by
  simp only [reaches_array, mem_gathered]
  grind

mutual

/-- **A column of taken values holds their cells**, unless there is a decimal without room among
them. -/
theorem exports_cells : ∀ (type : DataType) (values : List Value), type.isStorable = true →
    (∀ value ∈ values, type.takes value = true) →
    Exports (fun d => ∃ value ∈ values, type.Reaches value d) (· = values.map type.cell)
      (type.encode values)
  | .int, values, _, taken | .long, values, _, taken | .double, values, _, taken
  | .string, values, _, taken | .boolean, values, _, taken | .decimal, values, _, taken =>
      exports_scalarCells rfl taken
  | .unresolved, values, _, _ => by
      rw [encode]
      refine .written ?_ rfl
      rintro d ⟨value, -, reached⟩
      exact absurd reached not_reaches_unresolved
  | .struct fields, values, storable, taken => by
      obtain ⟨nonempty, each⟩ := isStorable_struct.mp storable
      have records := exports_memberCells fields values each fun value member =>
        takes_struct.mp (taken value member)
      rw [encode_struct nonempty]
      refine (records.map ?_).congr fun d => ?_
      · rintro _ rfl
        exact zipWith_memberCells fields values
      · simp only [reaches_struct]
  | .array element, values, storable, taken => by
      obtain ⟨arrays, each⟩ := takes_gathered.mp taken
      have items := exports_cells element (gathered values) storable each
      have unfolded : encode (.array element) values
          = (encode element (gathered values)).map (regroup (values.map items?)) := by
        rw [encode_array, arrayItems_eq_ok_iff.mpr ⟨arrays, rfl⟩]
        rfl
      rw [unfolded]
      refine (items.map ?_).congr fun d => reaches_gathered
      rintro _ rfl
      exact regroup_cells values

/-- The members of taken values. -/
theorem exports_memberCells : ∀ (fields : List (String × DataType)) (values : List Value),
    (∀ field ∈ fields, field.2.isStorable = true) →
    (∀ value ∈ values, ∀ field ∈ fields, field.2.takes (part value field) = true) →
    Exports (fun d => ∃ value ∈ values, ∃ field ∈ fields, field.2.Reaches (part value field) d)
      (· = values.map (memberCells fields)) (encodeFields fields values)
  | [], values, _, _ => by
      rw [encodeFields]
      refine .written ?_ rfl
      rintro d ⟨_, -, _, none, -⟩
      cases none
  | (name, type) :: fields, values, storable, taken => by
      simp only [List.forall_mem_cons] at storable taken
      have column := exports_cells type (values.map fun value => part value (name, type))
        storable.1 (List.forall_mem_map.mpr fun value member => (taken value member).1)
      have others := exports_memberCells fields values storable.2
        fun value member => (taken value member).2
      rw [encodeFields_cons]
      refine (column.both others ?_).congr fun d => ?_
      · rintro _ _ rfl rfl
        rw [List.map_map, List.zipWith_map, List.zipWith_self]
        exact List.map_congr_left fun value _ => by rw [memberCells]; rfl
      · simp only [List.mem_map, exists_exists_and_eq_and, List.mem_cons, exists_eq_or_imp,
          and_or_left, exists_or]

end

mutual

/-- **Only taken values are exported.** -/
theorem taken_of_encode : ∀ (type : DataType) {values : List Value} {cells : List Cell},
    type.encode values = .ok cells →
      type.isStorable = true ∧ ∀ value ∈ values, type.takes value = true
  | .int, _, _, encoded | .long, _, _, encoded | .double, _, _, encoded
  | .string, _, _, encoded | .boolean, _, _, encoded | .decimal, _, _, encoded =>
      ⟨rfl, hasType_of_encodeEach rfl encoded⟩
  | .unresolved, _, _, _ => ⟨rfl, fun _ _ => rfl⟩
  | .struct fields, values, _, encoded => by
      by_cases empty : fields = []
      · subst empty
        cases encoded
      · rw [encode_struct empty] at encoded
        obtain ⟨_, records, -⟩ := map_eq_ok.mp encoded
        obtain ⟨storable, taken⟩ := taken_of_encodeFields fields records
        exact ⟨isStorable_struct.mpr ⟨empty, storable⟩,
          fun value member => takes_struct.mpr (taken value member)⟩
  | .array element, values, _, encoded => by
      rw [encode_array] at encoded
      obtain ⟨groups, grouped, later⟩ := bind_eq_ok.mp encoded
      obtain ⟨_, items, -⟩ := map_eq_ok.mp later
      obtain ⟨arrays, rfl⟩ := arrayItems_eq_ok_iff.mp grouped
      obtain ⟨storable, taken⟩ := taken_of_encode element items
      exact ⟨storable, takes_gathered.mpr ⟨arrays, taken⟩⟩

theorem taken_of_encodeFields : ∀ (fields : List (String × DataType)) {values : List Value}
    {records : List (List Cell)}, encodeFields fields values = .ok records →
      (∀ field ∈ fields, field.2.isStorable = true) ∧
        ∀ value ∈ values, ∀ field ∈ fields, field.2.takes (part value field) = true
  | [], _, _, _ => ⟨nofun, fun _ _ => nofun⟩
  | (name, type) :: fields, values, _, encoded => by
      rw [encodeFields_cons] at encoded
      obtain ⟨_, column, later⟩ := bind_eq_ok.mp encoded
      obtain ⟨_, records, -⟩ := map_eq_ok.mp later
      obtain ⟨here, hereTaken⟩ := taken_of_encode type column
      obtain ⟨others, othersTaken⟩ := taken_of_encodeFields fields records
      refine ⟨List.forall_mem_cons.mpr ⟨here, others⟩, fun value member => ?_⟩
      exact List.forall_mem_cons.mpr
        ⟨List.forall_mem_map.mp hereTaken value member, othersTaken value member⟩

end

/-! ## Matching values -/

/-- A value that is exported: it is taken, and its decimals have room. -/
structure Exportable (type : DataType) (value : Value) : Prop where
  taken : type.takes value = true
  room : ∀ d, type.Reaches value d → d.HasRoom

theorem exportable_struct : (struct fields).Exportable value ↔
    ∀ field ∈ fields, field.2.Exportable (part value field) := by
  constructor
  · rintro ⟨taken, room⟩ field member
    exact ⟨takes_struct.mp taken field member,
      fun d reached => room d (reaches_struct.mpr ⟨field, member, reached⟩)⟩
  · intro each
    refine ⟨takes_struct.mpr fun field member => (each field member).taken, fun d reached => ?_⟩
    obtain ⟨field, member, inside⟩ := reaches_struct.mp reached
    exact (each field member).room d inside

theorem exportable_array {element : DataType} {items : List Value} :
    (array element).Exportable (.array items) ↔ ∀ item ∈ items, element.Exportable item := by
  constructor
  · rintro ⟨taken, room⟩ item member
    exact ⟨(takes_array.mp taken).2 items rfl item member,
      fun d reached => room d (reaches_array.mpr ⟨items, rfl, item, member, reached⟩)⟩
  · intro each
    have taken : (array element).takes (.array items) = true := by
      rw [takes, List.all_eq_true]
      exact fun item member => (each item member).taken
    refine ⟨taken, fun d reached => ?_⟩
    obtain ⟨_, same, item, member, inside⟩ := reaches_array.mp reached
    cases same
    exact (each item member).room d inside

theorem exportable_null (type : DataType) : type.Exportable .null :=
  ⟨takes_null type, fun _ reached => absurd reached not_reaches_null⟩

/-- Whether the type has no structures and no untyped parts. -/
def isPlain : DataType → Bool
  | .struct _ | .unresolved => false
  | .array element => element.isPlain
  | _ => true

/-- A value that is exported, and that matches its type only if the type is plain. -/
def stray : DataType → Value
  | .struct _ | .unresolved => .boolean true
  | .array element => .array [stray element]
  | _ => .null

/-- A plain type takes nothing but its values. -/
theorem takes_of_isPlain : ∀ (type : DataType) (value : Value), type.isPlain = true →
    type.takes value = value.hasType type
  | .int, _, _ | .long, _, _ | .double, _, _ | .string, _, _ | .boolean, _, _
  | .decimal, _, _ => takes_of_isBasic rfl
  | .array element, value, plain => by
      cases value with
      | array items =>
          rw [Bool.eq_iff_iff, takes, List.all_eq_true, Value.hasType, itemsHaveType_iff]
          refine forall₂_congr fun item _ => ?_
          rw [takes_of_isPlain element item plain]
      | _ => rfl

theorem stray_hasType : ∀ type : DataType, (stray type).hasType type = type.isPlain
  | .int | .long | .double | .string | .boolean | .decimal | .struct _ | .unresolved => rfl
  | .array element => by
      rw [stray, Value.hasType, Value.itemsHaveType, Value.itemsHaveType, Bool.and_true, isPlain]
      exact stray_hasType element

theorem exportable_stray : ∀ type : DataType, type.Exportable (stray type)
  | .int | .long | .double | .string | .boolean | .decimal => exportable_null _
  | .unresolved => ⟨rfl, fun _ reached => absurd reached not_reaches_unresolved⟩
  -- What is no structure has no members, and so every field counts as `NULL`.
  | .struct _ => exportable_struct.mpr fun field _ => exportable_null field.2
  | .array element =>
      exportable_array.mpr (List.forall_mem_singleton.mpr (exportable_stray element))

mutual

/-- **Values of accepted types are taken.** -/
theorem takes_of_hasType : ∀ (type : DataType) (value : Value), type.check = .ok () →
    value.hasType type = true → type.takes value = true
  | .int, _, _, typed | .long, _, _, typed | .double, _, _, typed | .string, _, _, typed
  | .boolean, _, _, typed | .decimal, _, _, typed => typed
  | .unresolved, _, accepted, _ => nomatch accepted
  | .struct fields, value, accepted, typed => by
      obtain ⟨-, distinct, each⟩ := check_struct_eq_ok.mp accepted
      exact takes_struct.mpr
        (parts_taken_of_hasType fields value each (part_hasType distinct typed))
  | .array element, value, accepted, typed => by
      cases value with
      | array items =>
          rw [takes, List.all_eq_true]
          exact fun item member =>
            takes_of_hasType element item accepted (itemsHaveType_iff.mp typed item member)
      | _ => exact typed

theorem parts_taken_of_hasType : ∀ (fields : List (String × DataType)) (value : Value),
    (∀ field ∈ fields, field.2.check = .ok ()) →
    (∀ field ∈ fields, (part value field).hasType field.2 = true) →
    ∀ field ∈ fields, field.2.takes (part value field) = true
  | [], _, _, _ => nofun
  | (name, type) :: fields, value, accepted, typed => by
      rw [List.forall_mem_cons] at accepted typed ⊢
      exact ⟨takes_of_hasType type (part value (name, type)) accepted.1 typed.1,
        parts_taken_of_hasType fields value accepted.2 typed.2⟩

end

end DataType

/-! ## Results -/

/-- What is good in one way only is written if all decimals have room. -/
theorem Exports.eq_ok_iff {α : Type} {among : Decimal → Prop} {expected result : α}
    {outcome : Except Error α} (exports : Exports among (· = expected) outcome) :
    outcome = .ok result ↔ (∀ d, among d → d.HasRoom) ∧ result = expected := by
  cases exports with
  | refused member wide => exact ⟨nofun, fun both => absurd (both.1 _ member) wide⟩
  | written room holds =>
      subst holds
      rw [Except.ok.injEq, eq_comm]
      exact (and_iff_right room).symm

/-- The values of a row that is wide enough are those at the positions of the columns. -/
theorem forall_mem_zipIdx_iff {columns : List Column} {row : Row}
    (width : row.length = columns.length) (holds : Column → Value → Prop) :
    (∀ entry ∈ columns.zipIdx, holds entry.1 (row.getD entry.2 .null)) ↔
      List.Forall₂ (fun value column => holds column value) row columns := by
  rw [List.forall₂_iff_get]
  have atPosition : ∀ (position : Nat) (inRow : position < row.length),
      row.getD position .null = row.get ⟨position, inRow⟩ := by
    intro position inRow
    rw [List.getD_eq_getElem?_getD, List.getElem?_eq_getElem inRow]
    rfl
  constructor
  · intro each
    refine ⟨width, fun position inRow inColumns => ?_⟩
    rw [← atPosition position inRow]
    exact each (columns[position], position)
      (List.mem_zipIdx_iff_getElem?.mpr (List.getElem?_eq_getElem inColumns))
  · rintro ⟨-, each⟩ ⟨column, position⟩ member
    obtain ⟨inColumns, here⟩ :=
      List.getElem?_eq_some_iff.mp (List.mem_zipIdx_iff_getElem?.mp member)
    rw [← here, atPosition position (width ▸ inColumns)]
    exact each position (width ▸ inColumns) inColumns

namespace QueryResult

/-- Columns of taken values hold their cells. -/
theorem exports_cellColumns {rows : List Row} {columns : List Column} {index : Nat}
    (storable : ∀ column ∈ columns, column.type.isStorable = true)
    (taken : ∀ entry ∈ columns.zipIdx index, ∀ row ∈ rows,
      entry.1.type.takes (row.getD entry.2 .null) = true) :
    Exports (fun d => ∃ entry ∈ columns.zipIdx index, ∃ row ∈ rows,
        entry.1.type.Reaches (row.getD entry.2 .null) d)
      (· = (columns.zipIdx index).map fun entry =>
        rows.map fun row => entry.1.type.cell (row.getD entry.2 .null))
      (encodeColumns rows index columns) := by
  induction columns generalizing index with
  | nil => exact .written (by simp) rfl
  | cons column rest ih =>
      rw [List.forall_mem_cons] at storable
      rw [List.zipIdx_cons, List.forall_mem_cons] at taken
      have here := DataType.exports_cells column.type (rows.map fun row => row.getD index .null)
        storable.1 (List.forall_mem_map.mpr taken.1)
      have later := ih storable.2 taken.2
      rw [encodeColumns_cons, List.zipIdx_cons]
      refine (here.both later ?_).congr fun d => ?_
      · rintro _ _ rfl rfl
        rw [List.map_map]
        rfl
      · simp only [List.mem_map, exists_exists_and_eq_and, List.mem_cons, exists_eq_or_imp]

theorem taken_of_encodeColumns {rows : List Row} {columns : List Column} {index : Nat}
    {cells : List (List Cell)} (encoded : encodeColumns rows index columns = .ok cells) :
    (∀ column ∈ columns, column.type.isStorable = true) ∧
      ∀ entry ∈ columns.zipIdx index, ∀ row ∈ rows,
        entry.1.type.takes (row.getD entry.2 .null) = true := by
  induction columns generalizing index cells with
  | nil => exact ⟨nofun, nofun⟩
  | cons column rest ih =>
      rw [encodeColumns_cons] at encoded
      obtain ⟨_, here, later⟩ := bind_eq_ok.mp encoded
      obtain ⟨_, others, -⟩ := map_eq_ok.mp later
      obtain ⟨storable, taken⟩ := DataType.taken_of_encode column.type here
      obtain ⟨othersStorable, othersTaken⟩ := ih others
      rw [List.zipIdx_cons, List.forall_mem_cons, List.forall_mem_cons]
      exact ⟨⟨storable, othersStorable⟩, List.forall_mem_map.mp taken, othersTaken⟩

/-- **Columns are written** if they can be stored and their values are exported, and then they
hold the cells of their values. -/
theorem encodeColumns_eq_ok_iff {rows : List Row} {columns : List Column}
    {cells : List (List Cell)} : encodeColumns rows 0 columns = .ok cells ↔
      (∀ column ∈ columns, column.type.isStorable = true) ∧
      (∀ entry ∈ columns.zipIdx, ∀ row ∈ rows,
        entry.1.type.Exportable (row.getD entry.2 .null)) ∧
      cells = columns.zipIdx.map fun entry =>
        rows.map fun row => entry.1.type.cell (row.getD entry.2 .null) := by
  constructor
  · intro encoded
    obtain ⟨storable, taken⟩ := taken_of_encodeColumns encoded
    obtain ⟨room, same⟩ := (exports_cellColumns storable taken).eq_ok_iff.mp encoded
    refine ⟨storable, fun entry inColumns row inRows =>
      ⟨taken entry inColumns row inRows, ?_⟩, same⟩
    exact fun d reached => room d ⟨entry, inColumns, row, inRows, reached⟩
  · rintro ⟨storable, each, same⟩
    have taken : ∀ entry ∈ columns.zipIdx, ∀ row ∈ rows,
        entry.1.type.takes (row.getD entry.2 .null) = true :=
      fun entry inColumns row inRows => (each entry inColumns row inRows).taken
    refine (exports_cellColumns storable taken).eq_ok_iff.mpr ⟨?_, same⟩
    rintro d ⟨entry, inColumns, row, inRows, reached⟩
    exact (each entry inColumns row inRows).room d reached

/-- A result is exported if and only if its columns can be stored and its values are exported. -/
theorem toColumns_isOk_iff {columns : List Column} {rows : List Row}
    (width : ∀ row ∈ rows, row.length = columns.length) :
    (∃ batch, toColumns ⟨columns, rows⟩ = .ok batch) ↔
      (∀ column ∈ columns, column.type.isStorable = true) ∧ ∀ row ∈ rows,
        List.Forall₂ (fun value column => column.type.Exportable value) row columns := by
  have byPosition : (∀ entry ∈ columns.zipIdx, ∀ row ∈ rows,
      entry.1.type.Exportable (row.getD entry.2 .null)) ↔ ∀ row ∈ rows,
        List.Forall₂ (fun value column => column.type.Exportable value) row columns := by
    rw [forall₂_comm]
    refine forall₂_congr fun row member => ?_
    exact forall_mem_zipIdx_iff (width row member) fun column => column.type.Exportable
  rw [← byPosition]
  constructor
  · rintro ⟨batch, exported⟩
    obtain ⟨cells, encoded, -⟩ := map_eq_ok.mp exported
    obtain ⟨storable, each, -⟩ := encodeColumns_eq_ok_iff.mp encoded
    exact ⟨storable, each⟩
  · rintro ⟨storable, each⟩
    exact ⟨_, map_eq_ok.mpr ⟨_, encodeColumns_eq_ok_iff.mpr ⟨storable, each, rfl⟩, rfl⟩⟩

/-- **Only matching values are exported** to columns without structures and without untyped parts,
and to no other columns that can be stored. -/
theorem fits_of_toColumns_iff {columns : List Column}
    (storable : ∀ column ∈ columns, column.type.isStorable = true) :
    (∀ rows : List Row, (∀ row ∈ rows, row.length = columns.length) →
        (∃ batch, toColumns ⟨columns, rows⟩ = .ok batch) → ∀ row ∈ rows, Row.Fits columns row) ↔
      ∀ column ∈ columns, column.type.isPlain = true := by
  constructor
  · intro onlyMatching
    -- The row of stray values is exported, and so it matches.
    have strays : List.Forall₂ (fun value column => column.type.Exportable value)
        (columns.map fun column => column.type.stray) columns := by
      rw [List.forall₂_map_left_iff, List.forall₂_same]
      exact fun column _ => column.type.exportable_stray
    have width : ∀ row ∈ [columns.map fun column => column.type.stray],
        row.length = columns.length :=
      List.forall_mem_singleton.mpr (List.length_map _)
    have exported := (toColumns_isOk_iff width).mpr
      ⟨storable, List.forall_mem_singleton.mpr strays⟩
    have fits := onlyMatching _ width exported _ List.mem_cons_self
    rw [Row.Fits, List.forall₂_map_left_iff, List.forall₂_same] at fits
    intro column member
    rw [← column.type.stray_hasType]
    exact fits column member
  · intro plain rows width exported row member
    have exportable := (toColumns_isOk_iff width).mp exported
    have byPosition := (forall_mem_zipIdx_iff (width row member) fun column =>
      column.type.Exportable).mpr (exportable.2 row member)
    refine (forall_mem_zipIdx_iff (width row member) fun column value =>
      value.hasType column.type = true).mp fun entry inColumns => ?_
    rw [← entry.1.type.takes_of_isPlain _ (plain entry.1 (List.fst_mem_of_mem_zipIdx inColumns))]
    exact (byPosition entry inColumns).taken

/-- **What export accepts.**  A result is exported if and only if its columns can be stored, its
values are taken, and their decimals have room.  Values that match accepted types are always
taken.  But taken values need not match: that only matching values are exported holds for columns
without structures and without untyped parts, and for no other columns that can be stored. -/
theorem toColumns_accepts (columns : List Column) :
    (∀ rows : List Row, (∀ row ∈ rows, row.length = columns.length) →
      ((∃ batch, toColumns ⟨columns, rows⟩ = .ok batch) ↔
        (∀ column ∈ columns, column.type.isStorable = true) ∧ ∀ row ∈ rows,
          List.Forall₂ (fun value column => column.type.Exportable value) row columns)) ∧
    (∀ column ∈ columns, column.type.check = .ok () →
      ∀ value : Value, value.hasType column.type = true → column.type.takes value = true) ∧
    ((∀ column ∈ columns, column.type.isStorable = true) →
      ((∀ rows : List Row, (∀ row ∈ rows, row.length = columns.length) →
          (∃ batch, toColumns ⟨columns, rows⟩ = .ok batch) → ∀ row ∈ rows, Row.Fits columns row) ↔
        ∀ column ∈ columns, column.type.isPlain = true)) := by
  refine ⟨fun rows width => toColumns_isOk_iff width, ?_, fits_of_toColumns_iff⟩
  intro column _ accepted value typed
  exact column.type.takes_of_hasType value accepted typed

/-- What is no structure, what has a misnamed member and what has one too many are all exported,
and so is a number in a column without a type. -/
theorem toColumns_accepts_of_misnamed :
    let columns : List Column := [⟨"p", .struct [("x", .int)]⟩, ⟨"u", .unresolved⟩]
    let one : Value := .int (BoundedInt.wrap 1)
    let rows : List Row := [[one, one], [.struct [("y", one)], .null],
      [.struct [("x", one), ("y", one)], .null]]
    (∀ row ∈ rows, row.length = columns.length) ∧
      (∃ batch, toColumns ⟨columns, rows⟩ = .ok batch ∧
        batch.cells = [[.record [.null], .record [.null], .record [.number 1]],
          [.null, .null, .null]]) ∧
      (∀ row ∈ rows, ¬ Row.Fits columns row ∧
        List.Forall₂ (fun value column => column.type.Exportable value) row columns) ∧
      ¬ ∀ column ∈ columns, column.type.isPlain = true := by
  intro columns one rows
  have width : ∀ row ∈ rows, row.length = columns.length := by
    simp only [rows, List.forall_mem_cons]
    exact ⟨rfl, rfl, rfl, nofun⟩
  have storable : ∀ column ∈ columns, column.type.isStorable = true := by
    simp only [columns, List.forall_mem_cons]
    exact ⟨rfl, rfl, nofun⟩
  have misfit : ∀ row ∈ rows, ¬ Row.Fits columns row := by
    simp only [rows, columns, Row.Fits, List.forall_mem_cons, List.forall₂_cons]
    decide
  have exported : ∃ batch, toColumns ⟨columns, rows⟩ = .ok batch ∧
      batch.cells = [[.record [.null], .record [.null], .record [.number 1]],
        [.null, .null, .null]] := by
    unfold columns rows one
    exact ⟨_, rfl, rfl⟩
  obtain ⟨accepts, -, onlyMatching⟩ := toColumns_accepts columns
  have isOk : ∃ batch, toColumns ⟨columns, rows⟩ = .ok batch :=
    exported.imp fun _ both => both.1
  have exportable := ((accepts rows width).mp isOk).2
  refine ⟨width, exported, fun row member => ⟨misfit row member, exportable row member⟩, ?_⟩
  intro plain
  exact misfit _ List.mem_cons_self
    ((onlyMatching storable).mpr plain rows width isOk _ List.mem_cons_self)

end QueryResult

end ScalarSql
