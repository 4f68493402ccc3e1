import ScalarSql.Proofs.Computation
import ScalarSql.Proofs.Value.Typing

/-!
# Conversions and the types they show

A conversion gives a value that shows its target type, `Value.ownType_of_convertTo`.  So a
cast makes `NULL` of nothing but `NULL`.

**Declared types.**  A value of a declared type need not show this type: a structure is
not tied to the case of the declared names, and a missing member or an array without items
says nothing about the types of members and items.  A cast to the declared type looks at what
the value shows, so it only leaves a value as it is that shows the type, and there is no
conversion for the others, `Value.castTo_declared`.
-/

set_option autoImplicit false

namespace ScalarSql

namespace Value

theorem ownType_of_read? {text : String} {target : DataType} {result : Value}
    (found : read? text target = some result) : result.ownType = target := by
  cases target with
  | int | long | double | decimal =>
      obtain ⟨_, _, rfl⟩ := Option.map_eq_some_iff.mp found
      rfl
  | boolean =>
      simp only [read?] at found
      split at found
      · cases found
        rfl
      · split at found <;> cases found
        rfl
  | string | struct _ | array _ | unresolved => cases found

theorem castResult_eq_ok {value result : Value} {target : DataType} {found : Option Value} :
    castResult value target found = .ok result ↔ found = some result := by
  cases found <;> simp [castResult]

theorem ownType_of_map {α : Type} {found : Option α} {wrap : α → Value} {target : DataType}
    {result : Value} (shows : ∀ number, (wrap number).ownType = target)
    (mapped : found.map wrap = some result) : result.ownType = target := by
  obtain ⟨number, -, rfl⟩ := Option.map_eq_some_iff.mp mapped
  exact shows number

/-- **A conversion shows its target type.** -/
theorem ownType_of_convertTo {value result : Value} {target : DataType} {checked : Bool}
    (converted : value.convertTo target checked = .ok result) : result.ownType = target := by
  cases value with
  | null | struct _ | array _ => cases target <;> cases converted
  | string text =>
      rw [convertTo_string, castResult_eq_ok] at converted
      exact ownType_of_read? converted
  | boolean _ =>
      cases target <;> cases converted
      rfl
  | int _ => cases target <;> cases converted <;> rfl
  | long number =>
      cases target with
      | int => exact ownType_of_map (fun _ => rfl) (castResult_eq_ok.mp converted)
      | _ => cases converted <;> rfl
  | double number =>
      cases target with
      | int | long => exact ownType_of_map (fun _ => rfl) (castResult_eq_ok.mp converted)
      | decimal =>
          obtain ⟨_, _, rfl⟩ := map_eq_ok.mp converted
          rfl
      | _ => cases converted <;> rfl
  | decimal _ =>
      cases target with
      | int | long =>
          simp only [convertTo] at converted
          split at converted <;> cases converted
          next narrowed => exact ownType_of_narrow? narrowed
      | _ => cases converted <;> rfl

/-- A cast of a value that is not `NULL` is not `NULL`. -/
theorem isNull_of_castTo {value result : Value} {target : DataType} {checked : Bool}
    (given : value.isNull = false) (converted : value.castTo target checked = .ok result) :
    result.isNull = false := by
  unfold castTo at converted
  split at converted
  · cases converted
    exact given
  · next other =>
      simp only [Bool.or_eq_true, beq_iff_eq, not_or] at other
      have shown := ownType_of_convertTo converted
      cases result with
      | null => exact absurd shown.symm other.1.2
      | _ => rfl

/-! ## Casts to the declared type -/

mutual

/-- Whether nothing of the declared type is lost in a value of it. -/
def shows : Value → DataType → Bool
  | .struct members, .struct fields => membersShow members fields
  | .array items, .array element => itemsShow items element
  | value, _ => !value.isNull

/-- Whether all members show the types of their fields, under the very names of these. -/
def membersShow : List (String × Value) → List (String × DataType) → Bool
  | (name, value) :: members, (field, type) :: fields =>
      name == field && value.shows type && membersShow members fields
  | _, _ => true

/-- Whether there is an item that is not `NULL`, and the first one shows the type. -/
def itemsShow : List Value → DataType → Bool
  | [], _ => false
  | item :: rest, type => if item.isNull then itemsShow rest type else item.shows type

end

mutual

/-- **What a value shows** of its declared type is what can be read off it. -/
theorem ownType_eq_iff : ∀ (value : Value) {type : DataType}, type.hasUnresolved = false →
    value.hasType type = true → (value.ownType = type ↔ value.shows type = true)
  | .null, type, resolved, _ => by
      rw [ownType, shows]
      · refine ⟨?_, nofun⟩
        rintro rfl
        cases resolved
      · exact nofun
      · exact nofun
  | .int _, type, _, typed | .long _, type, _, typed | .double _, type, _, typed
  | .string _, type, _, typed | .boolean _, type, _, typed | .decimal _, type, _, typed => by
      cases type <;> first | exact ⟨fun _ => rfl, fun _ => rfl⟩ | cases typed
  | .struct members, type, resolved, typed => by
      cases type with
      | struct fields =>
          rw [ownType, shows, DataType.struct.injEq]
          exact memberTypes_eq_iff members resolved typed
      | _ => cases typed
  | .array items, type, resolved, typed => by
      cases type with
      | array element =>
          rw [ownType, shows, DataType.array.injEq]
          exact itemType_eq_iff items resolved typed
      | _ => cases typed

theorem memberTypes_eq_iff : ∀ (members : List (String × Value))
    {fields : List (String × DataType)}, DataType.fieldsHaveUnresolved fields = false →
    membersHaveType members fields = true →
    (memberTypes members = fields ↔ membersShow members fields = true)
  | [], [], _, _ => ⟨fun _ => rfl, fun _ => rfl⟩
  | (name, value) :: members, (field, type) :: fields, resolved, typed => by
      simp only [DataType.fieldsHaveUnresolved, Bool.or_eq_false_iff] at resolved
      simp only [membersHaveType, Bool.and_eq_true] at typed
      rw [memberTypes, membersShow, List.cons.injEq, Prod.mk.injEq,
        ownType_eq_iff value resolved.1 typed.1.2,
        memberTypes_eq_iff members resolved.2 typed.2]
      simp only [Bool.and_eq_true, beq_iff_eq]

theorem itemType_eq_iff : ∀ (items : List Value) {element : DataType},
    element.hasUnresolved = false → itemsHaveType items element = true →
    (itemType items = element ↔ itemsShow items element = true)
  | [], element, resolved, _ => by
      refine ⟨?_, nofun⟩
      rintro rfl
      cases resolved
  | item :: rest, element, resolved, typed => by
      simp only [itemsHaveType, Bool.and_eq_true] at typed
      rw [itemType, itemsShow]
      cases item.isNull with
      | true => exact itemType_eq_iff rest resolved typed.2
      | false => exact ownType_eq_iff item resolved typed.1

end

/-- There is no conversion to the type of a value that has lost some of it. -/
theorem convertTo_of_lost {value : Value} {type : DataType} (checked : Bool)
    (present : value.isNull = false) (lost : value.shows type = false) :
    value.convertTo type checked = .error (value.castError type) := by
  cases value with
  | null => cases present
  | struct _ | array _ => cases type <;> rfl
  | _ => cases lost

theorem castTo_of_hasType {value : Value} {type : DataType} (checked : Bool)
    (resolved : type.hasUnresolved = false) (typed : value.hasType type = true) :
    value.castTo type checked = if value.isNull || value.shows type then .ok value
      else .error (value.castError type) := by
  have known : (type == .unresolved) = false := by
    rw [beq_eq_false_iff_ne]
    rintro rfl
    cases resolved
  have shown : (value.ownType == type) = value.shows type := by
    rw [Bool.eq_iff_iff, beq_iff_eq]
    exact ownType_eq_iff value resolved typed
  rw [castTo, known, shown, Bool.or_false]
  cases present : value.isNull with
  | true => rfl
  | false =>
      cases lost : value.shows type with
      | true => rfl
      | false => exact convertTo_of_lost checked present lost

/-- Members that are all `NULL`. -/
def nullMembers (fields : List (String × DataType)) : List (String × Value) :=
  fields.map fun field => (field.1, .null)

theorem membersHaveType_nullMembers (fields : List (String × DataType)) :
    membersHaveType (nullMembers fields) fields = true := by
  induction fields with
  | nil => rfl
  | cons field fields ih =>
      simp only [nullMembers, List.map_cons, membersHaveType, Text.sameName_refl, hasType_null,
        Bool.and_self, Bool.true_and]
      exact ih

/-- The types that all their values show, apart from `NULL`. -/
theorem shows_iff (type : DataType) :
    (∀ value : Value, value.hasType type = true → value.isNull = false → value.shows type = true) ↔
      type.isBasic = true ∨ type = .struct [] ∨ type = .unresolved := by
  constructor
  · intro always
    cases type with
    | struct fields =>
        cases fields with
        | nil => exact .inr (.inl rfl)
        | cons field fields =>
            have shown : membersShow (nullMembers (field :: fields)) (field :: fields) = true :=
              always (.struct _) (membersHaveType_nullMembers _) rfl
            simp [nullMembers, membersShow, shows, isNull] at shown
    | array element => cases always (.array []) rfl rfl
    | unresolved => exact .inr (.inr rfl)
    | _ => exact .inl rfl
  · rintro (basic | rfl | rfl) value typed present
    · cases value with
      | null => cases present
      | struct _ | array _ => cases type <;> first | cases typed | cases basic
      | _ => rfl
    · cases value with
      | null => cases present
      | struct members =>
          cases members with
          | nil => rfl
          | cons _ _ => cases typed
      | _ => cases typed
    · rw [eq_null_of_hasType_unresolved typed] at present
      cases present

end Value

namespace DataType

/-- A type without an unresolved part is the same as itself. -/
theorem castable_self {type : DataType} (resolved : type.hasUnresolved = false) :
    type.castable type = true := by
  have identity : coercion? type type = some .identity := by
    simp only [coercion?, resolved, Bool.or_self, Bool.false_eq_true, ↓reduceIte, beq_self_eq_true]
  rw [castable, identity]
  simp only [Option.isSome_some, Bool.or_true, Bool.true_or]

end DataType

namespace Value

/-- **Casts to the declared type.**  A type without an unresolved part may be cast to itself.  The
cast leaves `NULL` and the values that show the type as they are, and fails for all others, so
that it is the identity on a type without parts and on the structure without fields, and on no
other. -/
theorem castTo_declared {type : DataType} (resolved : type.hasUnresolved = false)
    (checked : Bool) :
    type.castable type = true ∧
    (∀ value : Value, value.hasType type = true →
      value.castTo type checked = if value.isNull || value.shows type then .ok value
        else .error (value.castError type)) ∧
    ((∀ value : Value, value.hasType type = true → value.castTo type checked = .ok value) ↔
      type.isBasic = true ∨ type = .struct []) := by
  have known : type ≠ .unresolved := by
    rintro rfl
    cases resolved
  refine ⟨DataType.castable_self resolved,
    fun value typed => castTo_of_hasType checked resolved typed, ?_⟩
  have identity : (∀ value : Value, value.hasType type = true →
      value.castTo type checked = .ok value) ↔
      ∀ value : Value, value.hasType type = true → value.isNull = false →
        value.shows type = true := by
    refine forall₂_congr fun value typed => ?_
    rw [castTo_of_hasType checked resolved typed]
    cases value.isNull <;> cases value.shows type <;> simp
  rw [identity, shows_iff, or_iff_left known]

/-- A structure with a missing member, one whose member is named in another case and an array
without items cannot be cast to the types they are declared with. -/
theorem castTo_declared_of_missing :
    let point : DataType := .struct [("x", .int)]
    let one : Value := .int (.wrap 1)
    let pointOf : String → Value → Value := fun name member => .struct [(name, member)]
    (∀ value ∈ [pointOf "x" one, pointOf "x" .null, pointOf "X" one],
      value.hasType point = true) ∧
      point.castable point = true ∧
      (pointOf "x" one).castTo point true = .ok (pointOf "x" one) ∧
      (pointOf "x" .null).castTo point true = .error ((pointOf "x" .null).castError point) ∧
      (pointOf "X" one).castTo point true = .error ((pointOf "X" one).castError point) ∧
      castTo (.array []) (.array .int) false = .error (castError (.array []) (.array .int)) ∧
      castTo (.array [.null, one]) (.array .int) false = .ok (.array [.null, one]) := by
  intro point one pointOf
  have typed : ∀ value ∈ [pointOf "x" one, pointOf "x" .null, pointOf "X" one],
      value.hasType point = true := by decide
  simp only [List.forall_mem_cons] at typed
  obtain ⟨castable, casts, -⟩ := castTo_declared (show point.hasUnresolved = false from rfl) true
  obtain ⟨-, arrays, -⟩ :=
    castTo_declared (show (DataType.array .int).hasUnresolved = false from rfl) false
  refine ⟨by decide, castable, ?_, ?_, ?_, ?_, ?_⟩
  · exact (casts _ typed.1).trans rfl
  · exact (casts _ typed.2.1).trans rfl
  · exact (casts _ typed.2.2.1).trans rfl
  · exact (arrays _ rfl).trans rfl
  · exact (arrays _ rfl).trans rfl

end Value

end ScalarSql
