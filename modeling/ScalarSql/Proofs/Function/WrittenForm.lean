import ScalarSql.Proofs.Function.HostType
import ScalarSql.Proofs.Text.LetterCase

/-!
# The written form of data

Several values may be read as the same data, because the fields of a record are found by name
and names are compared without regard to the case of ASCII letters.  There is no other choice:
a value of the declared type that can be read is the one that the data is written as, up to the
case of the letters in the names of members, `HostType.caseless_encode`.  So writing is a
bijection between the data of a type and the readable values of its declared type.

**Conditions on the type.**  The members of a value stand in the order of the declared fields,
and reading finds each of them by name, so the names of a record have to be distinct.  A record
without fields would be read from any value, also from `NULL`.  `HostType.hasDistinctFields`
excludes both, and the types that it admits are those that a signature accepts,
`HostType.check_dataType`.
-/

set_option autoImplicit false

namespace ScalarSql

/-! ## Values up to the case of names -/

namespace Value

mutual

/-- The value with small letters in the names of all members. -/
def caseless : Value → Value
  | .struct members => .struct (caselessMembers members)
  | .array items => .array (caselessItems items)
  | value => value

/-- The members with small letters in their names, and in those inside of them. -/
def caselessMembers : List (String × Value) → List (String × Value)
  | [] => []
  | (name, value) :: rest => (Text.small name, value.caseless) :: caselessMembers rest

/-- The items with small letters in the names of all members. -/
def caselessItems : List Value → List Value
  | [] => []
  | item :: rest => item.caseless :: caselessItems rest

end

end Value

namespace HostType

/-! ## Types with distinct fields -/

mutual

/-- Whether every record in the type has fields, and no two of one name. -/
def hasDistinctFields : HostType → Bool
  | .int | .long | .double | .string | .boolean | .decimal => true
  | .optional inner => inner.hasDistinctFields
  | .list element => element.hasDistinctFields
  | .record fields => !fields.isEmpty && fieldsAreDistinct fields

/-- Whether no two of the fields have one name, nor two fields of a record inside of them. -/
def fieldsAreDistinct : List (String × HostType) → Bool
  | [] => true
  | (name, type) :: rest =>
      rest.all (fun field => !Text.sameName name field.1) && type.hasDistinctFields &&
        fieldsAreDistinct rest

end

theorem fieldTypes_eq_map (fields : List (String × HostType)) :
    fieldTypes fields = fields.map fun field => (field.1, field.2.dataType) := by
  induction fields with
  | nil => rfl
  | cons field rest ih =>
      rw [fieldTypes, ih]
      rfl

mutual

/-- **A signature accepts the declared type** if and only if all records have distinct fields. -/
theorem check_dataType : ∀ type : HostType,
    type.dataType.check = .ok () ↔ type.hasDistinctFields = true
  | .int | .long | .double | .string | .boolean | .decimal => iff_of_true rfl rfl
  | .optional inner => check_dataType inner
  | .list element => check_dataType element
  | .record fields => by
      rw [dataType, DataType.check_struct_eq_ok, checkFields_fieldTypes fields, hasDistinctFields,
        Bool.and_eq_true, Bool.not_eq_true', List.isEmpty_eq_false_iff, fieldTypes_eq_map,
        ne_eq, List.map_eq_nil_iff]

theorem checkFields_fieldTypes : ∀ fields : List (String × HostType),
    DataType.DistinctNames (fieldTypes fields) ∧
        (∀ field ∈ fieldTypes fields, field.2.check = .ok ()) ↔
      fieldsAreDistinct fields = true
  | [] => iff_of_true ⟨.nil, nofun⟩ rfl
  | (name, type) :: rest => by
      have others := checkFields_fieldTypes rest
      have apart : (∀ field ∈ fieldTypes rest, Text.sameName name field.1 = false) ↔
          rest.all (fun field => !Text.sameName name field.1) = true := by
        rw [fieldTypes_eq_map, List.forall_mem_map, List.all_eq_true]
        simp only [Bool.not_eq_true']
      rw [fieldTypes, DataType.DistinctNames, List.pairwise_cons, List.forall_mem_cons,
        fieldsAreDistinct, Bool.and_eq_true, Bool.and_eq_true, ← others, ← check_dataType type,
        ← apart, DataType.DistinctNames]
      tauto

end

/-! ## Reading and writing -/

theorem caselessItems_of_decodeEach {element : HostType} {values : List Value}
    {items : List element.Carrier} (typed : Value.itemsHaveType values element.dataType = true)
    (read : decodeEach (element.decode ·) values = .ok items)
    (back : ∀ value item, value.hasType element.dataType = true →
      element.decode value = .ok item → (element.encode item).caseless = value.caseless) :
    Value.caselessItems (items.map (element.encode ·)) = Value.caselessItems values := by
  induction values generalizing items with
  | nil =>
      cases read
      rfl
  | cons value rest ih =>
      rw [Value.itemsHaveType, Bool.and_eq_true] at typed
      rw [decodeEach] at read
      cases first : element.decode value with
      | error error =>
          rw [first] at read
          cases read
      | ok item =>
          rw [first] at read
          obtain ⟨others, readOthers, rfl⟩ := map_eq_ok.mp read
          rw [List.map_cons, Value.caselessItems, Value.caselessItems,
            back value item typed.1 first, ih typed.2 readOthers]

mutual

/-- **What is read is written back** as it was, up to the case of the names of members. -/
theorem caseless_encode : ∀ (type : HostType) {value : Value} {data : type.Carrier},
    type.dataType.check = .ok () → value.hasType type.dataType = true →
      type.decode value = .ok data → (type.encode data).caseless = value.caseless
  | .int, value, _, _, _, read | .long, value, _, _, _, read | .double, value, _, _, _, read
  | .string, value, _, _, _, read | .boolean, value, _, _, _, read
  | .decimal, value, _, _, _, read => by
      cases value <;> cases read
      rfl
  | .optional inner, value, data, accepted, typed, read => by
      unfold decode at read
      split at read
      · cases read
        rfl
      · obtain ⟨present, readPresent, rfl⟩ := map_eq_ok.mp read
        exact caseless_encode inner accepted typed readPresent
  | .list element, value, data, accepted, typed, read => by
      cases value with
      | array values =>
          exact congrArg Value.array <| caselessItems_of_decodeEach typed read
            fun _ _ => caseless_encode element accepted
      | _ => cases read
  | .record fields, value, data, accepted, typed, read => by
      obtain ⟨nonempty, distinct, each⟩ := DataType.check_struct_eq_ok.mp accepted
      cases value with
      | struct members =>
          have found := Value.field?_of_membersHaveType typed distinct
          exact congrArg Value.struct <| caselessMembers_encodeFields fields each typed
            (found.imp fun _ _ both => both.1) read
      | null =>
          -- A record has a field, and there is no field to be read from `NULL`.
          cases fields with
          | nil => exact absurd rfl nonempty
          | cons field rest => cases read
      | _ => cases typed

/-- The fields of a record are written back where each of them is found by its name. -/
theorem caselessMembers_encodeFields : ∀ (fields : List (String × HostType))
    {members inside : List (String × Value)} {data : FieldCarrier fields},
    (∀ field ∈ fieldTypes fields, field.2.check = .ok ()) →
      Value.membersHaveType members (fieldTypes fields) = true →
        List.Forall₂ (fun field member => (Value.struct inside).field? field.1 = some member.2)
            (fieldTypes fields) members →
          decodeFields fields (.struct inside) = .ok data →
            Value.caselessMembers (encodeFields fields data) = Value.caselessMembers members
  | [], members, _, _, _, _, found, _ => by
      cases found
      rfl
  | (name, type) :: rest, members, inside, data, each, typed, found, read => by
      obtain ⟨accepted, others⟩ := List.forall_mem_cons.mp each
      cases found with
      | @cons _ member _ members here later =>
          obtain ⟨given, value⟩ := member
          rw [fieldTypes, Value.membersHaveType, Bool.and_eq_true, Bool.and_eq_true] at typed
          obtain ⟨⟨sameName, hasType⟩, restTyped⟩ := typed
          simp only [decodeFields, here] at read
          cases first : type.decode value with
          | error error =>
              rw [first] at read
              cases read
          | ok item =>
              rw [first] at read
              obtain ⟨remaining, readRest, rfl⟩ := map_eq_ok.mp read
              show Value.caselessMembers ((name, type.encode item) :: encodeFields rest remaining)
                = Value.caselessMembers ((given, value) :: members)
              rw [Value.caselessMembers, Value.caselessMembers,
                caseless_encode type accepted hasType first, Text.sameName_iff.mp sameName,
                caselessMembers_encodeFields rest others restTyped later readRest]

end

/-- **Writing is a bijection** between the data of a type and the readable values of its declared
type, up to the case of the names of members: what is written has the declared type and is read
back as it was, and what is read from a value of the declared type is written back as that
value. -/
theorem encode_bijective (type : HostType) (flat : type.hasFlatOptions = true)
    (distinct : type.hasDistinctFields = true) :
    (∀ data : type.Carrier, type.decode (type.encode data) = .ok data ∧
      (type.encode data).hasType type.dataType = true) ∧
    ∀ (value : Value) (data : type.Carrier), value.hasType type.dataType = true →
      type.decode value = .ok data → (type.encode data).caseless = value.caseless := by
  have accepted := type.check_dataType.mpr distinct
  constructor
  · intro data
    exact ⟨decode_encode type data flat accepted, hasType_encode type data⟩
  · intro value data typed read
    exact caseless_encode type accepted typed read

/-- The members of a record inside a record are found under names with other letters, and they are
written under the declared names. -/
theorem encode_bijective_of_nested :
    let place : HostType := .record [("x", .int), ("label", .optional .string)]
    let type : HostType :=
      .record [("place", .optional place), ("tags", .list (.optional .string))]
    let one : BoundedInt 32 := ⟨1, by decide, by decide⟩
    let inside : Value := .struct [("X", .int one), ("LABEL", .null)]
    let given : Value := .struct [("Place", inside), ("tags", .array [.string "a", .null])]
    let data : type.Carrier := (some (one, none, ()), [some "a", none], ())
    type.hasFlatOptions = true ∧ type.hasDistinctFields = true ∧
      given.hasType type.dataType = true ∧ type.decode given = .ok data ∧
      type.decode (type.encode data) = .ok data ∧ (type.encode data).caseless = given.caseless ∧
      type.encode data = .struct [("place", .struct [("x", .int one), ("label", .null)]),
        ("tags", .array [.string "a", .null])] := by
  intro place type one inside given data
  have flat : type.hasFlatOptions = true := rfl
  have distinct : type.hasDistinctFields = true := by decide +kernel
  have typed : given.hasType type.dataType = true := by decide +kernel
  have readInside : place.decode inside = .ok (one, none, ()) := by
    have x : inside.field? "x" = some (.int one) := by
      simp [inside, Value.field?, DataType.findNamed?, Text.sameName]
    have label : inside.field? "label" = some .null := by
      simp [inside, Value.field?, DataType.findNamed?, Text.sameName]
    show decodeFields _ inside = _
    simp only [inside, decodeFields] at x label ⊢
    rw [x, label]
    rfl
  have read : type.decode given = .ok data := by
    have first : given.field? "place" = some inside := by
      simp [given, Value.field?, DataType.findNamed?, Text.sameName]
    have second : given.field? "tags" = some (.array [.string "a", .null]) := by
      simp [given, Value.field?, DataType.findNamed?, Text.sameName]
    have optional : (optional place).decode inside = .ok (some (one, none, ())) :=
      decode_optional rfl readInside
    show decodeFields _ given = _
    simp only [given, decodeFields] at first second ⊢
    rw [first, second]
    simp only [optional]
    rfl
  obtain ⟨back, written⟩ := encode_bijective type flat distinct
  exact ⟨flat, distinct, typed, read, (back data).1, written given data typed read, rfl⟩

end HostType

end ScalarSql
