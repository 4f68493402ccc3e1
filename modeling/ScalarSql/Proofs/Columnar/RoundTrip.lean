import ScalarSql.QueryResult
import ScalarSql.Proofs.Columnar.Decimal
import ScalarSql.Proofs.Computation
import ScalarSql.Proofs.Expr.Typing
import ScalarSql.Proofs.Value.Fields

/-!
# Exported results are read back

A result is exported column by column, and every part of a structure and all items of arrays
become columns of their own.  Reading takes a cell at a time.  The two invert each other:
every cell is read back as the value that it was written for,
`QueryResult.toColumns_restores`.

**What comes back.**  `Value.Restores` relates a value to what comes back for it.  Decimals
are the same numbers under the scale of exported decimals, members of structures stand under
their declared names, and whatever is `NULL` comes back as `NULL`, at every depth.

**Refusals.**  A decimal that has no room at the scale of exported decimals ends the export.
`Exports` says that this is the only reason: the outcome is the refusal of one of the
decimals that are among the data, or a good result if all of them have room.  It composes
along the steps of an export, `Exports.both`, so that each step is looked at on its own.

**Types.**  The types of the columns are those that a signature accepts.  A type with an
unresolved part has cells that cannot be read, a structure without fields has no columns, and
of two fields with one name the lookup of members would only see the first.
-/

set_option autoImplicit false

namespace ScalarSql

/-! ## What comes back -/

namespace Value

mutual

/-- The decimals in a value, at every depth. -/
def decimals : Value → List Decimal
  | .decimal number => [number]
  | .struct members => memberDecimals members
  | .array items => itemDecimals items
  | _ => []

/-- The decimals in members. -/
def memberDecimals : List (String × Value) → List Decimal
  | [] => []
  | (_, value) :: rest => value.decimals ++ memberDecimals rest

/-- The decimals in several values. -/
def itemDecimals : List Value → List Decimal
  | [] => []
  | item :: rest => item.decimals ++ itemDecimals rest

end

theorem mem_itemDecimals {d : Decimal} {items : List Value} :
    d ∈ itemDecimals items ↔ ∃ item ∈ items, d ∈ item.decimals := by
  induction items with
  | nil => simp [itemDecimals]
  | cons item rest ih => simp [itemDecimals, ih]

theorem memberDecimals_eq (members : List (String × Value)) :
    memberDecimals members = itemDecimals (members.map Prod.snd) := by
  induction members with
  | nil => rfl
  | cons member rest ih => rw [memberDecimals, List.map_cons, itemDecimals, ih]

mutual

/-- What a value of a type comes back as when it is exported and read: as itself, but with
decimals that may have other scales, and with the members of structures under the declared
names. -/
inductive Restores : DataType → Value → Value → Prop
  | null (type : DataType) : Restores type .null .null
  | int (number : BoundedInt 32) : Restores .int (.int number) (.int number)
  | long (number : BoundedInt 64) : Restores .long (.long number) (.long number)
  | double (number : Double) : Restores .double (.double number) (.double number)
  | string (text : String) : Restores .string (.string text) (.string text)
  | boolean (truth : Bool) : Restores .boolean (.boolean truth) (.boolean truth)
  | decimal {number restored : Decimal} (same : number.sameNumber restored = true) :
      Restores .decimal (.decimal number) (.decimal restored)
  | struct {fields : List (String × DataType)} {members restored : List (String × Value)}
      (each : RestoresMembers fields (members.map Prod.snd) restored) :
      Restores (.struct fields) (.struct members) (.struct restored)
  | array {element : DataType} {items restored : List Value}
      (each : RestoresItems element items restored) :
      Restores (.array element) (.array items) (.array restored)

/-- What the values of the fields of a structure come back as: each as a member with the name
of its field. -/
inductive RestoresMembers :
    List (String × DataType) → List Value → List (String × Value) → Prop
  | nil : RestoresMembers [] [] []
  | cons {name : String} {type : DataType} {fields : List (String × DataType)}
      {value restored : Value} {values : List Value} {members : List (String × Value)}
      (first : Restores type value restored) (rest : RestoresMembers fields values members) :
      RestoresMembers ((name, type) :: fields) (value :: values) ((name, restored) :: members)

/-- What the items of an array come back as. -/
inductive RestoresItems : DataType → List Value → List Value → Prop
  | nil (element : DataType) : RestoresItems element [] []
  | cons {element : DataType} {item restored : Value} {items others : List Value}
      (first : Restores element item restored) (rest : RestoresItems element items others) :
      RestoresItems element (item :: items) (restored :: others)

end

end Value

/-! ## Reading -/

namespace Cell

/-- The cell is read back as the value. -/
def Holds (type : DataType) (value : Value) (cell : Cell) : Prop :=
  ∃ restored, (ColumnType.ofDataType type).read cell = .ok restored ∧
    Value.Restores type value restored

/-- The cells of a record are read back as the values of the fields. -/
def RecordHolds (fields : List (String × DataType)) (values : List Value) (cells : List Cell) :
    Prop :=
  ∃ restored, ColumnType.readMembers (ColumnType.ofFields fields) cells = .ok restored ∧
    Value.RestoresMembers fields values restored

theorem recordHolds_nil (cells : List Cell) : RecordHolds [] [] cells :=
  ⟨[], by rw [ColumnType.ofFields, ColumnType.readMembers], .nil⟩

theorem recordHolds_cons {name : String} {type : DataType} {fields : List (String × DataType)}
    {value : Value} {values : List Value} {cell : Cell} {cells : List Cell}
    (first : Holds type value cell) (rest : RecordHolds fields values cells) :
    RecordHolds ((name, type) :: fields) (value :: values) (cell :: cells) := by
  obtain ⟨restored, read, restores⟩ := first
  obtain ⟨others, othersRead, othersRestore⟩ := rest
  refine ⟨(name, restored) :: others, ?_, .cons restores othersRestore⟩
  simp only [ColumnType.ofFields, ColumnType.readMembers, read, othersRead, map_ok]

/-- The cells of a list are read back as the items of an array. -/
theorem readItems_of_holds {element : DataType} {items : List Value} {cells : List Cell}
    (holds : List.Forall₂ (Holds element) items cells) :
    ∃ restored, ColumnType.readItems (ColumnType.ofDataType element) cells = .ok restored ∧
      Value.RestoresItems element items restored := by
  induction holds with
  | nil => exact ⟨[], by rw [ColumnType.readItems], .nil element⟩
  | cons first _ ih =>
      obtain ⟨restored, read, restores⟩ := first
      obtain ⟨others, othersRead, othersRestore⟩ := ih
      refine ⟨restored :: others, ?_, .cons restores othersRestore⟩
      simp only [ColumnType.readItems, read, othersRead, map_ok]

theorem holds_null {type : DataType} (accepted : type.check = .ok ()) :
    Holds type .null .null := by
  refine ⟨.null, ?_, .null type⟩
  cases type with
  | unresolved => cases accepted
  | _ => rfl

theorem holds_record {fields : List (String × DataType)} {members : List (String × Value)}
    {cells : List Cell} (holds : RecordHolds fields (members.map Prod.snd) cells) :
    Holds (.struct fields) (.struct members) (.record cells) := by
  obtain ⟨restored, read, restores⟩ := holds
  refine ⟨.struct restored, ?_, .struct restores⟩
  simp only [ColumnType.ofDataType, ColumnType.read, read, map_ok]

theorem holds_list {element : DataType} {items : List Value} {cells : List Cell}
    (holds : List.Forall₂ (Holds element) items cells) :
    Holds (.array element) (.array items) (.list cells) := by
  obtain ⟨restored, read, restores⟩ := readItems_of_holds holds
  refine ⟨.array restored, ?_, .array restores⟩
  simp only [ColumnType.ofDataType, ColumnType.read, read, map_ok]

end Cell

/-! ## Writing -/

/-- What exporting data may end in: a refusal because of a decimal among the data that has no
room, or a good result if there is none. -/
inductive Exports {α : Type} (among : Decimal → Prop) (good : α → Prop) : Except Error α → Prop
  | refused {d : Decimal} (member : among d) (wide : ¬ d.HasRoom) :
      Exports among good (.error d.noRoom)
  | written {result : α} (room : ∀ d, among d → d.HasRoom) (holds : good result) :
      Exports among good (.ok result)

namespace Exports

variable {α β γ : Type} {among first second : Decimal → Prop} {good : α → Prop}

theorem congr {outcome : Except Error α} (exports : Exports among good outcome)
    (same : ∀ d, among d ↔ first d) : Exports first good outcome := by
  cases exports with
  | refused member wide => exact .refused ((same _).mp member) wide
  | written room holds => exact .written (fun d member => room d ((same d).mpr member)) holds

theorem map {better : β → Prop} {f : α → β} {outcome : Except Error α}
    (exports : Exports among good outcome) (carries : ∀ result, good result → better (f result)) :
    Exports among better (outcome.map f) := by
  cases exports with
  | refused member wide => exact .refused member wide
  | written room holds => exact .written room (carries _ holds)

/-- What is exported in two parts, one after the other. -/
theorem both {other : β → Prop} {better : γ → Prop} {f : α → β → γ}
    {left : Except Error α} {right : Except Error β} (here : Exports first good left)
    (later : Exports second other right)
    (carries : ∀ result rest, good result → other rest → better (f result rest)) :
    Exports (fun d => first d ∨ second d) better
      (left.bind fun result => right.map (f result)) := by
  cases here with
  | refused member wide => exact .refused (.inl member) wide
  | written room holds =>
      cases later with
      | refused member wide => exact .refused (.inr member) wide
      | written others otherHolds =>
          exact .written (fun d => Or.rec (room d) (others d)) (carries _ _ holds otherHolds)

end Exports

namespace DataType

open Cell (Holds RecordHolds)

/-- The type has no parts. -/
def isScalar : DataType → Bool
  | .struct _ | .array _ | .unresolved => false
  | _ => true

/-- **A single value** is exported and read back, unless it is a decimal without room. -/
theorem exports_encodeScalar {type : DataType} {value : Value} (scalar : type.isScalar = true)
    (typed : value.hasType type = true) (short : ∀ d ∈ value.decimals, d.scale ≤ exportScale) :
    Exports (· ∈ value.decimals) (Holds type value) (encodeScalar type value) := by
  have plain : ∀ cell, encodeScalar type value = .ok cell → value.decimals = [] →
      Holds type value cell →
        Exports (· ∈ value.decimals) (Holds type value) (encodeScalar type value) := by
    intro cell encoded none holds
    rw [encoded, none]
    exact .written nofun holds
  cases value with
  | null =>
      refine plain .null (by cases type <;> rfl) rfl (Cell.holds_null ?_)
      cases type <;> first | rfl | cases scalar
  | int number =>
      cases type <;> cases typed
      refine plain _ rfl rfl ⟨_, ?_, .int number⟩
      simp only [ColumnType.ofDataType, ColumnType.read, BoundedInt.ofInt?_val]
  | long number =>
      cases type <;> cases typed
      refine plain _ rfl rfl ⟨_, ?_, .long number⟩
      simp only [ColumnType.ofDataType, ColumnType.read, BoundedInt.ofInt?_val]
  | double number =>
      cases type <;> cases typed
      exact plain _ rfl rfl ⟨_, rfl, .double number⟩
  | string text =>
      cases type <;> cases typed
      exact plain _ rfl rfl ⟨_, rfl, .string text⟩
  | boolean truth =>
      cases type <;> cases typed
      exact plain _ rfl rfl ⟨_, rfl, .boolean truth⟩
  | struct members => cases type <;> first | cases typed | cases scalar
  | array items => cases type <;> first | cases typed | cases scalar
  | decimal number =>
      cases type <;> cases typed
      have short := short number (List.mem_singleton_self number)
      rw [encodeScalar]
      by_cases room : number.HasRoom
      · obtain ⟨restored, read, same⟩ := Decimal.ofCell_of_hasRoom short room
        rw [Decimal.toCell_of_hasRoom short room]
        refine .written (List.forall_mem_singleton.mpr room) ⟨_, ?_, .decimal same⟩
        simp only [ColumnType.ofDataType, ColumnType.read, read, map_ok]
      · rw [Decimal.toCell_of_not_hasRoom short room]
        exact .refused (List.mem_singleton_self number) room

theorem encodeEach_cons {encodeOne : Value → Except Error Cell} {value : Value}
    {values : List Value} :
    encodeEach encodeOne (value :: values) = (encodeOne value).bind fun cell =>
      (encodeEach encodeOne values).map (cell :: ·) := by
  rw [encodeEach]
  cases encodeOne value <;> rfl

theorem exports_encodeEach {type : DataType} {encodeOne : Value → Except Error Cell}
    {values : List Value}
    (one : ∀ value ∈ values, Exports (· ∈ value.decimals) (Holds type value) (encodeOne value)) :
    Exports (fun d => ∃ value ∈ values, d ∈ value.decimals) (List.Forall₂ (Holds type) values)
      (encodeEach encodeOne values) := by
  induction values with
  | nil => exact .written (by simp) .nil
  | cons value rest ih =>
      rw [List.forall_mem_cons] at one
      rw [encodeEach_cons]
      refine (Exports.both one.1 (ih one.2) fun _ _ here later => .cons here later).congr
        fun d => ?_
      simp only [List.mem_cons, exists_eq_or_imp]

/-! ### Structures -/

/-- The value of a field, `NULL` if it is missing. -/
def part (value : Value) (field : String × DataType) : Value :=
  (value.field? field.1).getD .null

theorem map_part_struct {fields : List (String × DataType)} {members : List (String × Value)}
    (distinct : DistinctNames fields) (typed : Value.membersHaveType members fields = true) :
    fields.map (part (.struct members)) = members.map Prod.snd := by
  have found := Value.field?_of_membersHaveType typed distinct
  rw [← List.forall₂_eq_eq_eq, List.forall₂_map_left_iff, List.forall₂_map_right_iff]
  exact found.imp fun field member both => by rw [part, both.1, Option.getD_some]

theorem mem_decimals_iff_part {fields : List (String × DataType)} {value : Value}
    (distinct : DistinctNames fields) (typed : value.hasType (.struct fields) = true)
    (d : Decimal) : d ∈ value.decimals ↔ ∃ field ∈ fields, d ∈ (part value field).decimals := by
  cases value with
  | null =>
      refine ⟨nofun, ?_⟩
      rintro ⟨field, -, member⟩
      cases member
  | struct members =>
      rw [Value.decimals, Value.memberDecimals_eq, ← map_part_struct distinct typed,
        Value.mem_itemDecimals]
      simp only [List.mem_map, exists_exists_and_eq_and]
  | _ => cases typed

theorem part_hasType {fields : List (String × DataType)} {value : Value}
    (distinct : DistinctNames fields) (typed : value.hasType (.struct fields) = true) :
    ∀ field ∈ fields, (part value field).hasType field.2 = true := by
  cases value with
  | null => exact fun field _ => Value.hasType_null field.2
  | struct members =>
      have found := (Value.field?_of_membersHaveType typed distinct).flip
      exact forall_mem_of_forall₂ found (fun _ _ => trivial) fun member field both _ => by
        rw [part, both.1]
        exact both.2
  | _ => cases typed

/-- A column is put in front of records, value by value. -/
theorem forall₂_zipWith_cons {first : Value → Cell → Prop} {rest both : Value → List Cell → Prop}
    {values : List Value} {column : List Cell} {records : List (List Cell)}
    (here : List.Forall₂ first values column) (later : List.Forall₂ rest values records)
    (joins : ∀ value cell record, first value cell → rest value record →
      both value (cell :: record)) :
    List.Forall₂ both values (List.zipWith List.cons column records) := by
  induction here generalizing records with
  | nil => exact .nil
  | cons holds _ ih =>
      cases later with
      | cons othersHold later => exact .cons (joins _ _ _ holds othersHold) (ih later)

/-- **Records are cells again**: a missing structure is a missing cell, and any other one holds
its members. -/
theorem holds_zipWith_record {fields : List (String × DataType)} {values : List Value}
    {records : List (List Cell)} (accepted : (struct fields).check = .ok ())
    (typed : ∀ value ∈ values, value.hasType (.struct fields) = true)
    (hold : List.Forall₂ (fun value record => RecordHolds fields (fields.map (part value)) record)
      values records) :
    List.Forall₂ (Holds (.struct fields)) values
      (List.zipWith (fun (value : Value) (record : List Cell) =>
        if value.isNull then Cell.null else Cell.record record) values records) := by
  induction hold with
  | nil => exact .nil
  | @cons value record values records here _ ih =>
      obtain ⟨hereTyped, restTyped⟩ := List.forall_mem_cons.mp typed
      refine .cons ?_ (ih restTyped)
      cases value with
      | null => exact Cell.holds_null accepted
      | struct members =>
          rw [map_part_struct (check_struct_eq_ok.mp accepted).2.1 hereTyped] at here
          exact Cell.holds_record here
      | _ => cases hereTyped

/-! ### Arrays -/

/-- The items of an array, and nothing for a missing one. -/
def items? : Value → Option (List Value)
  | .array items => some items
  | _ => none

theorem arrayItems_eq_ok {element : DataType} {values : List Value}
    (typed : ∀ value ∈ values, value.hasType (.array element) = true) :
    arrayItems (.array element) values = .ok (values.map items?) := by
  induction values with
  | nil => rfl
  | cons value rest ih =>
      obtain ⟨here, later⟩ := List.forall_mem_cons.mp typed
      cases value with
      | null | array _ =>
          rw [arrayItems, ih later]
          rfl
      | _ => cases here

/-- The items of all arrays of a column. -/
def gathered (values : List Value) : List Value :=
  (values.map items?).flatMap fun group => group.getD []

theorem mem_gathered {values : List Value} {item : Value} :
    item ∈ gathered values ↔ ∃ items, .array items ∈ values ∧ item ∈ items := by
  simp only [gathered, List.mem_flatMap, List.mem_map, exists_exists_and_eq_and]
  constructor
  · rintro ⟨value, member, inItems⟩
    cases value with
    | array items => exact ⟨items, member, inItems⟩
    | _ => cases inItems
  · rintro ⟨items, member, inItems⟩
    exact ⟨.array items, member, inItems⟩

theorem itemsHaveType_iff {items : List Value} {type : DataType} :
    Value.itemsHaveType items type = true ↔ ∀ item ∈ items, item.hasType type = true := by
  induction items with
  | nil => exact ⟨fun _ => nofun, fun _ => rfl⟩
  | cons item rest ih => rw [Value.itemsHaveType, Bool.and_eq_true, ih, List.forall_mem_cons]

/-- **Lists are cut out again**: a column of all items is divided among the arrays. -/
theorem holds_regroup {element : DataType} {values : List Value} {cells : List Cell}
    (accepted : element.check = .ok ())
    (typed : ∀ value ∈ values, value.hasType (.array element) = true)
    (hold : List.Forall₂ (Holds element) (gathered values) cells) :
    List.Forall₂ (Holds (.array element)) values (regroup (values.map items?) cells) := by
  induction values generalizing cells with
  | nil => exact .nil
  | cons value rest ih =>
      obtain ⟨here, later⟩ := List.forall_mem_cons.mp typed
      cases value with
      | null => exact .cons (Cell.holds_null accepted) (ih later hold)
      | array items =>
          have gather : gathered (.array items :: rest) = items ++ gathered rest := rfl
          rw [gather] at hold
          have front := List.forall₂_take items.length hold
          have back := List.forall₂_drop items.length hold
          rw [List.take_left] at front
          rw [List.drop_left] at back
          exact .cons (Cell.holds_list front) (ih later back)
      | _ => cases here

/-! ### Columns -/

theorem encode_struct {fields : List (String × DataType)} (nonempty : fields ≠ [])
    (values : List Value) :
    encode (.struct fields) values = (encodeFields fields values).map
      (List.zipWith (fun (value : Value) (record : List Cell) =>
        if value.isNull then Cell.null else Cell.record record) values) := by
  have regular : fields.isEmpty = false := List.isEmpty_eq_false_iff.mpr nonempty
  rw [encode, regular]
  cases encodeFields fields values <;> rfl

theorem encodeFields_cons (field : String × DataType) (fields : List (String × DataType))
    (values : List Value) :
    encodeFields (field :: fields) values
      = (encode field.2 (values.map fun value => part value field)).bind fun column =>
        (encodeFields fields values).map (List.zipWith List.cons column) := by
  rw [encodeFields]
  unfold part
  cases encode field.2 (values.map fun value => (value.field? field.1).getD .null) <;> rfl

theorem encode_array (element : DataType) (values : List Value) :
    encode (.array element) values = (arrayItems (.array element) values).bind fun groups =>
      (encode element (groups.flatMap fun group => group.getD [])).map (regroup groups) := by
  rw [encode]
  cases arrayItems (.array element) values <;> rfl

mutual

/-- **The values of a column** are exported and read back, unless there is a decimal without
room among them. -/
theorem exports_encode : ∀ (type : DataType) (values : List Value), type.check = .ok () →
    (∀ value ∈ values, value.hasType type = true) →
    (∀ value ∈ values, ∀ d ∈ value.decimals, d.scale ≤ exportScale) →
    Exports (fun d => ∃ value ∈ values, d ∈ value.decimals) (List.Forall₂ (Holds type) values)
      (type.encode values)
  | .int, values, _, typed, short | .long, values, _, typed, short
  | .double, values, _, typed, short | .string, values, _, typed, short
  | .boolean, values, _, typed, short | .decimal, values, _, typed, short =>
      exports_encodeEach fun value member =>
        exports_encodeScalar rfl (typed value member) (short value member)
  | .unresolved, _, accepted, _, _ => nomatch accepted
  | .struct fields, values, accepted, typed, short => by
      obtain ⟨nonempty, distinct, each⟩ := check_struct_eq_ok.mp accepted
      have inParts : ∀ value ∈ values, ∀ d,
          d ∈ value.decimals ↔ ∃ field ∈ fields, d ∈ (part value field).decimals :=
        fun value member => mem_decimals_iff_part distinct (typed value member)
      have records := exports_encodeFields fields values each
        (fun value member => part_hasType distinct (typed value member))
        (fun value member field inFields d inPart =>
          short value member d ((inParts value member d).mpr ⟨field, inFields, inPart⟩))
      rw [encode_struct nonempty]
      refine (records.map fun _ => holds_zipWith_record accepted typed).congr fun d => ?_
      exact exists_congr fun value => and_congr_right fun member => (inParts value member d).symm
  | .array element, values, accepted, typed, short => by
      have inArray : ∀ item ∈ gathered values, ∃ value ∈ values,
          item.hasType element = true ∧ ∀ d ∈ item.decimals, d ∈ value.decimals := by
        intro item member
        obtain ⟨items, inValues, inItems⟩ := mem_gathered.mp member
        exact ⟨_, inValues, itemsHaveType_iff.mp (typed _ inValues) item inItems,
          fun d inItem => Value.mem_itemDecimals.mpr ⟨item, inItems, inItem⟩⟩
      have items := exports_encode element (gathered values) accepted
        (fun item member => by
          obtain ⟨_, -, itemTyped, -⟩ := inArray item member
          exact itemTyped)
        (fun item member d inItem => by
          obtain ⟨value, inValues, -, inValue⟩ := inArray item member
          exact short value inValues d (inValue d inItem))
      have unfolded : encode (.array element) values
          = (encode element (gathered values)).map (regroup (values.map items?)) := by
        rw [encode_array, arrayItems_eq_ok typed]
        rfl
      rw [unfolded]
      refine (items.map fun _ => holds_regroup accepted typed).congr fun d => ⟨?_, ?_⟩
      · rintro ⟨item, member, inItem⟩
        obtain ⟨value, inValues, -, inValue⟩ := inArray item member
        exact ⟨value, inValues, inValue d inItem⟩
      · rintro ⟨value, inValues, inValue⟩
        cases value with
        | array items =>
            obtain ⟨item, inItems, inItem⟩ := Value.mem_itemDecimals.mp inValue
            exact ⟨item, mem_gathered.mpr ⟨items, inValues, inItems⟩, inItem⟩
        | null => cases inValue
        | _ => cases typed _ inValues

/-- The members of the records of a column. -/
theorem exports_encodeFields : ∀ (fields : List (String × DataType)) (values : List Value),
    (∀ field ∈ fields, field.2.check = .ok ()) →
    (∀ value ∈ values, ∀ field ∈ fields, (part value field).hasType field.2 = true) →
    (∀ value ∈ values, ∀ field ∈ fields, ∀ d ∈ (part value field).decimals,
      d.scale ≤ exportScale) →
    Exports (fun d => ∃ value ∈ values, ∃ field ∈ fields, d ∈ (part value field).decimals)
      (List.Forall₂ (fun value record => RecordHolds fields (fields.map (part value)) record)
        values) (encodeFields fields values)
  | [], values, _, _, _ => by
      rw [encodeFields]
      refine .written ?_ ?_
      · rintro d ⟨_, -, _, none, -⟩
        cases none
      · rw [List.forall₂_map_right_iff, List.forall₂_same]
        exact fun _ _ => Cell.recordHolds_nil []
  | (name, type) :: fields, values, accepted, typed, short => by
      simp only [List.forall_mem_cons] at accepted typed short
      have column := exports_encode type (values.map fun value => part value (name, type))
        accepted.1
        (List.forall_mem_map.mpr fun value member => (typed value member).1)
        (List.forall_mem_map.mpr fun value member => (short value member).1)
      have others := exports_encodeFields fields values accepted.2
        (fun value member => (typed value member).2) (fun value member => (short value member).2)
      rw [encodeFields_cons]
      refine (column.both others fun _ _ here later =>
        forall₂_zipWith_cons (List.forall₂_map_left_iff.mp here) later
          fun _ _ _ => Cell.recordHolds_cons).congr fun d => ?_
      simp only [List.mem_map, exists_exists_and_eq_and, List.mem_cons, exists_eq_or_imp,
        and_or_left, exists_or]

end

end DataType

/-! ## Results -/

/-- At the position of a column a row that fits has a value of the type of the column. -/
theorem Row.Fits.getD {columns : List Column} {row : Row} (fits : Row.Fits columns row)
    {entry : Column × Nat} (inColumns : entry ∈ columns.zipIdx) :
    row.getD entry.2 .null ∈ row ∧
      (row.getD entry.2 .null).hasType entry.1.type = true := by
  obtain ⟨value, atPosition, typed⟩ :=
    getElem?_of_forall₂ fits.flip (List.mem_zipIdx_iff_getElem?.mp inColumns)
  rw [List.getD_eq_getElem?_getD, atPosition, Option.getD_some]
  exact ⟨List.mem_of_getElem? atPosition, typed⟩

/-- The values of a row that fits are those at the positions of the columns. -/
theorem Row.Fits.exists_mem_iff {columns : List Column} {row : Row}
    (fits : Row.Fits columns row) {holds : Value → Prop} :
    (∃ value ∈ row, holds value) ↔
      ∃ entry ∈ columns.zipIdx, holds (row.getD entry.2 .null) := by
  constructor
  · rintro ⟨value, inRow, here⟩
    obtain ⟨position, atRow⟩ := List.mem_iff_getElem?.mp inRow
    obtain ⟨column, atColumn, -⟩ := getElem?_of_forall₂ fits atRow
    refine ⟨(column, position), List.mem_zipIdx_iff_getElem?.mpr atColumn, ?_⟩
    rwa [List.getD_eq_getElem?_getD, atRow, Option.getD_some]
  · rintro ⟨entry, inColumns, here⟩
    exact ⟨_, (fits.getD inColumns).1, here⟩

namespace QueryResult

theorem encodeColumns_cons {rows : List Row} {index : Nat} {column : Column}
    {columns : List Column} : encodeColumns rows index (column :: columns)
      = (column.type.encode (rows.map fun row => row.getD index .null)).bind fun cells =>
        (encodeColumns rows (index + 1) columns).map (cells :: ·) := by
  rw [encodeColumns]
  cases column.type.encode (rows.map fun row => row.getD index .null) <;> rfl

/-- The columns with their positions are exported one after the other. -/
theorem exports_encodeColumns {rows : List Row} {columns : List Column} {index : Nat}
    (accepted : ∀ column ∈ columns, column.type.check = .ok ())
    (typed : ∀ entry ∈ columns.zipIdx index, ∀ row ∈ rows,
      (row.getD entry.2 .null).hasType entry.1.type = true)
    (short : ∀ entry ∈ columns.zipIdx index, ∀ row ∈ rows,
      ∀ d ∈ (row.getD entry.2 .null).decimals, d.scale ≤ exportScale) :
    Exports (fun d => ∃ entry ∈ columns.zipIdx index, ∃ row ∈ rows,
        d ∈ (row.getD entry.2 .null).decimals)
      (List.Forall₂ (fun entry cells => List.Forall₂ (fun row cell =>
        Cell.Holds entry.1.type (row.getD entry.2 .null) cell) rows cells)
        (columns.zipIdx index))
      (encodeColumns rows index columns) := by
  induction columns generalizing index with
  | nil => exact .written (by simp) .nil
  | cons column rest ih =>
      rw [List.forall_mem_cons] at accepted
      rw [List.zipIdx_cons, List.forall_mem_cons] at typed short
      have here := DataType.exports_encode column.type (rows.map fun row => row.getD index .null)
        accepted.1 (List.forall_mem_map.mpr typed.1) (List.forall_mem_map.mpr short.1)
      have later := ih accepted.2 typed.2 short.2
      rw [encodeColumns_cons, List.zipIdx_cons]
      refine (here.both later fun _ _ column others =>
        .cons (List.forall₂_map_left_iff.mp column) others).congr fun d => ?_
      simp only [List.mem_map, exists_exists_and_eq_and, List.mem_cons, exists_eq_or_imp]

end QueryResult

end ScalarSql
