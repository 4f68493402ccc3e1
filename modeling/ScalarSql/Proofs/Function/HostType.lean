import ScalarSql.Function.HostType
import ScalarSql.Proofs.Computation
import ScalarSql.Proofs.Value.Fields

/-!
# Data passed as values

Data of a host type is written as a value, and a value is read back as data.  Written data
always has the type that is declared for it (`HostType.hasType_encode`), so a typed function
cannot return a value of another type than it declares.

**Reading back.**  What is written is read back as it was, `HostType.decode_encode`, under two
conditions.  A signature accepts the type: the fields of a record are found again by name, and
an accepted record has no two of one name.  And no optional type stands directly inside
another one, because data that is missing in the inner and in the outer one is both times
written as `NULL`.
-/

set_option autoImplicit false

namespace ScalarSql

namespace HostType

mutual

/-- Whether nowhere in the type an optional type stands directly inside another one. -/
def hasFlatOptions : HostType → Bool
  | .int | .long | .double | .string | .boolean | .decimal => true
  | .optional inner => !inner.isNullable && inner.hasFlatOptions
  | .list element => element.hasFlatOptions
  | .record fields => fieldsHaveFlatOptions fields

/-- Whether the types of all fields have flat options. -/
def fieldsHaveFlatOptions : List (String × HostType) → Bool
  | [] => true
  | (_, type) :: rest => type.hasFlatOptions && fieldsHaveFlatOptions rest

end

/-! ## Types of written data -/

mutual

/-- **Written data has the declared type.** -/
theorem hasType_encode : ∀ (type : HostType) (data : type.Carrier),
    (type.encode data).hasType type.dataType = true
  | .int, _ | .long, _ | .double, _ | .string, _ | .boolean, _ | .decimal, _ => rfl
  | .optional _, none => rfl
  | .optional inner, some present => hasType_encode inner present
  | .list element, items => itemsHaveType_encode element items
  | .record fields, data => membersHaveType_encodeFields fields data

theorem itemsHaveType_encode (element : HostType) : ∀ items : List element.Carrier,
    Value.itemsHaveType (items.map (element.encode ·)) element.dataType = true
  | [] => rfl
  | item :: rest => by
      rw [List.map_cons, Value.itemsHaveType, hasType_encode element item,
        itemsHaveType_encode element rest]
      rfl

theorem membersHaveType_encodeFields : ∀ (fields : List (String × HostType))
    (data : FieldCarrier fields),
    Value.membersHaveType (encodeFields fields data) (fieldTypes fields) = true
  | [], _ => rfl
  | (name, type) :: rest, data => by
      rw [encodeFields, fieldTypes, Value.membersHaveType, Text.sameName_refl,
        hasType_encode type data.1, membersHaveType_encodeFields rest data.2]
      rfl

end

/-- Only optional data is written as `NULL`. -/
theorem isNull_encode {type : HostType} (data : type.Carrier) (required : type.isNullable = false) :
    (type.encode data).isNull = false := by
  cases type with
  | optional inner => cases required
  | _ => rfl

/-! ## Reading back -/

theorem decodeEach_map {α : Type} {write : α → Value} {read : Value → Except Error α}
    {items : List α} (back : ∀ item ∈ items, read (write item) = .ok item) :
    decodeEach read (items.map write) = .ok items := by
  induction items with
  | nil => rfl
  | cons first rest ih =>
      obtain ⟨here, later⟩ := List.forall_mem_cons.mp back
      rw [List.map_cons, decodeEach, here, ih later]
      rfl

/-- Data that is there is read as data that is there. -/
theorem decode_optional {inner : HostType} {value : Value} {data : inner.Carrier}
    (there : value.isNull = false) (back : inner.decode value = .ok data) :
    (optional inner).decode value = .ok (some data) := by
  unfold decode
  split
  · cases there
  · rw [back]
    rfl

mutual

/-- **Written data is read back** as it was. -/
theorem decode_encode : ∀ (type : HostType) (data : type.Carrier),
    type.hasFlatOptions = true → type.dataType.check = .ok () →
      type.decode (type.encode data) = .ok data
  | .int, _, _, _ | .long, _, _, _ | .double, _, _, _ | .string, _, _, _ | .boolean, _, _, _
  | .decimal, _, _, _ => rfl
  | .optional _, none, _, _ => rfl
  | .optional inner, some present, flat, accepted => by
      rw [hasFlatOptions, Bool.and_eq_true, Bool.not_eq_true'] at flat
      exact decode_optional (isNull_encode present flat.1)
        (decode_encode inner present flat.2 accepted)
  | .list element, items, flat, accepted =>
      decodeEach_map fun item _ => decode_encode element item flat accepted
  | .record fields, data, flat, accepted => by
      obtain ⟨-, distinct, each⟩ := DataType.check_struct_eq_ok.mp accepted
      have found := Value.field?_of_membersHaveType (membersHaveType_encodeFields fields data)
        distinct
      exact decodeFields_of_found fields data flat each (found.imp fun _ _ both => both.1)

/-- The fields of a record are read back where each of them is found by its name. -/
theorem decodeFields_of_found : ∀ (fields : List (String × HostType)) (data : FieldCarrier fields)
    {members : List (String × Value)}, fieldsHaveFlatOptions fields = true →
      (∀ field ∈ fieldTypes fields, field.2.check = .ok ()) →
        List.Forall₂ (fun field member => (Value.struct members).field? field.1 = some member.2)
          (fieldTypes fields) (encodeFields fields data) →
            decodeFields fields (.struct members) = .ok data
  | [], _, _, _, _, _ => rfl
  | (name, type) :: rest, data, members, flat, each, found => by
      rw [fieldsHaveFlatOptions, Bool.and_eq_true] at flat
      obtain ⟨accepted, others⟩ := List.forall_mem_cons.mp each
      obtain ⟨here, later⟩ := List.forall₂_cons.mp found
      have first := decode_encode type data.1 flat.1 accepted
      have remaining := decodeFields_of_found rest data.2 flat.2 others later
      simp only [decodeFields, here, first, remaining]
      rfl

end

end HostType

end ScalarSql
