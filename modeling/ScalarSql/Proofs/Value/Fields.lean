import Mathlib.Data.List.Forall2
import ScalarSql.Proofs.DataType
import ScalarSql.Proofs.Text.LetterCase
import ScalarSql.Proofs.Value.Typing
import ScalarSql.Schema

/-!
# Fields of accepted types

A signature may mention a structure type if it has fields, if no two of them have one name,
and if it may mention the types of all of them, `DataType.check_struct_eq_ok`.  So a type is
accepted if and only if this holds of every structure inside it and no part of it is unresolved,
`DataType.check_eq_ok_iff`.

**Lookup.**  Names are compared without regard to the case of ASCII letters, and a lookup takes
the first field of a name.  With distinct names there is no choice,
`DataType.findNamed?_of_distinct`.  The members of a value have the names of the fields up to
letter case, so they are distinct as well, and a name finds the member that stands where its
field stands, `DataType.lookup_unambiguous`.
-/

set_option autoImplicit false

namespace ScalarSql

namespace DataType

/-- No two of the fields have the same name. -/
def DistinctNames (fields : List (String × DataType)) : Prop :=
  fields.Pairwise fun first second => Text.sameName first.1 second.1 = false

/-- Fields that follow fields with the names in `earlier` are accepted if all their names are
new and all their types are accepted. -/
theorem checkFields_eq_ok {earlier : List String} {fields : List (String × DataType)} :
    checkFields earlier fields = .ok () ↔
      (∀ field ∈ fields, ∀ name ∈ earlier, Text.sameName name field.1 = false) ∧
        DistinctNames fields ∧ ∀ field ∈ fields, field.2.check = .ok () := by
  induction fields generalizing earlier with
  | nil => exact ⟨fun _ => ⟨nofun, .nil, nofun⟩, fun _ => rfl⟩
  | cons field rest ih =>
      obtain ⟨name, type⟩ := field
      have new : earlier.any (Text.sameName · name) = false ↔
          ∀ other ∈ earlier, Text.sameName other name = false := by
        simp only [List.any_eq_false, Bool.not_eq_true]
      simp only [checkFields, DistinctNames, List.pairwise_cons, List.forall_mem_cons]
      cases known : earlier.any (Text.sameName · name) with
      | true =>
          refine ⟨nofun, fun accepted => ?_⟩
          rw [new.mpr accepted.1.1] at known
          cases known
      | false =>
          cases checked : type.check with
          | error fault => exact ⟨nofun, fun accepted => nomatch accepted.2.2.1⟩
          | ok _ =>
              have first := new.mp known
              simp only [Bool.false_eq_true, ↓reduceIte, ih, List.forall_mem_cons, DistinctNames]
              constructor
              · rintro ⟨others, distinct, accepted⟩
                exact ⟨⟨first, fun field member => (others field member).2⟩,
                  ⟨fun field member => (others field member).1, distinct⟩, trivial, accepted⟩
              · rintro ⟨⟨-, others⟩, ⟨here, distinct⟩, -, accepted⟩
                exact ⟨fun field member => ⟨here field member, others field member⟩, distinct,
                  accepted⟩

/-- **A structure type is accepted** if it has fields with distinct names and accepted types. -/
theorem check_struct_eq_ok {fields : List (String × DataType)} :
    (struct fields).check = .ok () ↔
      fields ≠ [] ∧ DistinctNames fields ∧ ∀ field ∈ fields, field.2.check = .ok () := by
  cases fields with
  | nil => exact ⟨nofun, fun accepted => absurd rfl accepted.1⟩
  | cons field rest =>
      rw [check, checkFields_eq_ok]
      simp only [List.not_mem_nil, false_imp_iff, implies_true, true_and, ne_eq, reduceCtorEq,
        not_false_eq_true]

/-- No part of the type is unresolved, and every structure in it has fields with distinct
names. -/
structure WellFormed (type : DataType) : Prop where
  resolved : ¬ unresolved.IsPart type
  fields : ∀ fields, (struct fields).IsPart type → fields ≠ [] ∧ DistinctNames fields

theorem wellFormed_struct_iff {fields : List (String × DataType)} :
    (struct fields).WellFormed ↔
      fields ≠ [] ∧ DistinctNames fields ∧ ∀ field ∈ fields, field.2.WellFormed := by
  constructor
  · intro wellFormed
    obtain ⟨nonempty, distinct⟩ := wellFormed.fields fields (.whole _)
    exact ⟨nonempty, distinct, fun field member =>
      ⟨fun inside => wellFormed.resolved (.field member inside),
        fun inner inside => wellFormed.fields inner (.field member inside)⟩⟩
  · rintro ⟨nonempty, distinct, each⟩
    constructor
    case resolved =>
      intro part
      obtain isWhole | ⟨field, member, inside⟩ := isPart_struct_iff.mp part
      · cases isWhole
      · exact (each field member).resolved inside
    case fields =>
      intro inner part
      obtain isWhole | ⟨field, member, inside⟩ := isPart_struct_iff.mp part
      · cases isWhole
        exact ⟨nonempty, distinct⟩
      · exact (each field member).fields inner inside

theorem wellFormed_array_iff {element : DataType} :
    (array element).WellFormed ↔ element.WellFormed := by
  constructor
  · intro wellFormed
    exact ⟨fun inside => wellFormed.resolved (.item inside),
      fun inner inside => wellFormed.fields inner (.item inside)⟩
  · intro wellFormed
    constructor
    case resolved =>
      intro part
      cases part with
      | item inside => exact wellFormed.resolved inside
    case fields =>
      intro inner part
      cases part with
      | item inside => exact wellFormed.fields inner inside

mutual

/-- **Which types are accepted.** -/
theorem check_eq_ok_iff : ∀ type : DataType, type.check = .ok () ↔ type.WellFormed
  | .struct fields => by
      rw [check_struct_eq_ok, wellFormed_struct_iff, forall_check_eq_ok_iff fields]
  | .array element => by
      rw [check, check_eq_ok_iff element, wellFormed_array_iff]
  | .int | .long | .double | .string | .boolean | .decimal =>
      ⟨fun _ => ⟨nofun, nofun⟩, fun _ => rfl⟩
  | .unresolved => ⟨nofun, fun wellFormed => absurd (.whole _) wellFormed.resolved⟩

theorem forall_check_eq_ok_iff : ∀ fields : List (String × DataType),
    (∀ field ∈ fields, field.2.check = .ok ()) ↔ ∀ field ∈ fields, field.2.WellFormed
  | [] => iff_of_true (List.forall_mem_nil _) (List.forall_mem_nil _)
  | (name, type) :: rest => by
      rw [List.forall_mem_cons, List.forall_mem_cons, check_eq_ok_iff type,
        forall_check_eq_ok_iff rest]

end

/-! ## Lookup -/

section Lookup

variable {α : Type} {items : List (String × α)}

/-- Distinct names are still distinct when their letters are made small. -/
theorem pairwise_sameName_iff :
    (items.Pairwise fun first second => Text.sameName first.1 second.1 = false) ↔
      (items.map fun item => Text.small item.1).Nodup := by
  simp only [List.Nodup, List.pairwise_map, Bool.eq_false_iff, ne_eq, Text.sameName_iff]

/-- **With distinct names there is no choice**: however the case of its letters is, the name of an
item finds this item. -/
theorem findNamed?_of_distinct {position : Nat} {item : String × α} {spelling : String}
    (distinct : (items.map fun item => Text.small item.1).Nodup)
    (here : items[position]? = some item) (same : Text.sameName item.1 spelling = true) :
    findNamed? spelling items = some item := by
  induction items generalizing position with
  | nil => cases here
  | cons first rest ih =>
      obtain ⟨apart, restDistinct⟩ := List.nodup_cons.mp distinct
      cases position with
      | zero =>
          cases here
          exact List.find?_cons_of_pos same
      | succ position =>
          rw [List.getElem?_cons_succ] at here
          have other : ¬ Text.sameName first.1 spelling = true := by
            intro sameFirst
            rw [Text.sameName_iff] at same sameFirst
            exact apart (List.mem_map.mpr
              ⟨item, List.mem_of_getElem? here, same.trans sameFirst.symm⟩)
          rw [findNamed?, List.find?_cons, Bool.eq_false_iff.mpr other]
          exact ih restDistinct here

end Lookup

end DataType

namespace Value

/-- The member at the position of a field has its name, up to letter case, and its type. -/
theorem getElem?_of_membersHaveType {members : List (String × Value)}
    {fields : List (String × DataType)} {position : Nat} {field : String × DataType}
    (typed : membersHaveType members fields = true) (here : fields[position]? = some field) :
    ∃ member, members[position]? = some member ∧ Text.sameName member.1 field.1 = true ∧
      member.2.hasType field.2 = true := by
  induction members generalizing fields position with
  | nil =>
      cases fields with
      | nil => cases here
      | cons => cases typed
  | cons member rest ih =>
      cases fields with
      | nil => cases typed
      | cons first others =>
          simp only [membersHaveType, Bool.and_eq_true] at typed
          obtain ⟨⟨sameName, hasType⟩, restTyped⟩ := typed
          cases position with
          | zero =>
              cases here
              exact ⟨member, rfl, sameName, hasType⟩
          | succ position => exact ih restTyped here

theorem small_names_of_membersHaveType {members : List (String × Value)}
    {fields : List (String × DataType)} (typed : membersHaveType members fields = true) :
    (members.map fun member => Text.small member.1)
      = fields.map fun field => Text.small field.1 := by
  induction members generalizing fields with
  | nil =>
      cases fields with
      | nil => rfl
      | cons => cases typed
  | cons member rest ih =>
      cases fields with
      | nil => cases typed
      | cons field others =>
          simp only [membersHaveType, Bool.and_eq_true, Text.sameName_iff] at typed
          rw [List.map_cons, List.map_cons, typed.1.1, ih typed.2]

/-- The name of a field, however the case of its letters is, finds the member at its position. -/
theorem field?_of_respelled {members : List (String × Value)} {fields : List (String × DataType)}
    {position : Nat} {field : String × DataType} {spelling : String}
    (typed : membersHaveType members fields = true) (distinct : DataType.DistinctNames fields)
    (here : fields[position]? = some field) (same : Text.sameName field.1 spelling = true) :
    ∃ member, members[position]? = some member ∧
      (struct members).field? spelling = some member.2 ∧ member.2.hasType field.2 = true := by
  obtain ⟨member, inMembers, sameName, hasType⟩ := getElem?_of_membersHaveType typed here
  have namesDistinct : (members.map fun member => Text.small member.1).Nodup := by
    rw [small_names_of_membersHaveType typed]
    exact DataType.pairwise_sameName_iff.mp distinct
  have found := DataType.findNamed?_of_distinct namesDistinct inMembers
    ((sameName_congr sameName spelling).trans same)
  exact ⟨member, inMembers, congrArg (Option.map Prod.snd) found, hasType⟩

/-- **The declared names find the members in order**, and each has the declared type. -/
theorem field?_of_membersHaveType {members : List (String × Value)}
    {fields : List (String × DataType)} (typed : membersHaveType members fields = true)
    (distinct : DataType.DistinctNames fields) :
    List.Forall₂ (fun field member => (struct members).field? field.1 = some member.2 ∧
      member.2.hasType field.2 = true) fields members := by
  rw [List.forall₂_iff_get]
  refine ⟨?_, fun position inFields inMembers => ?_⟩
  · have names := congrArg List.length (small_names_of_membersHaveType typed)
    rw [List.length_map, List.length_map] at names
    exact names.symm
  · obtain ⟨member, here, found, hasType⟩ := field?_of_respelled typed distinct
      (List.getElem?_eq_getElem inFields) (Text.sameName_refl _)
    obtain ⟨_, rfl⟩ := List.getElem?_eq_some_iff.mp here
    exact ⟨found, hasType⟩

end Value

/-! ## Accepted types -/

namespace DataType

/-- **Field lookup is unambiguous** in the types that are accepted.  These are the types without an
unresolved part in which every structure has fields with distinct names.  The name of a field,
however the case of its letters is, finds this field in the type, and in a value of the type the
member at the same position, which has the type of the field. -/
theorem lookup_unambiguous :
    (∀ type : DataType, type.check = .ok () ↔ ¬ unresolved.IsPart type ∧
      ∀ fields, (struct fields).IsPart type → fields ≠ [] ∧ DistinctNames fields) ∧
    ∀ (fields : List (String × DataType)) (position : Nat) (field : String × DataType)
      (spelling : String), (struct fields).check = .ok () → fields[position]? = some field →
        Text.sameName field.1 spelling = true →
          (struct fields).field? spelling = some field ∧
          (struct fields).fieldType spelling = .ok field.2 ∧
          ∀ members, (Value.struct members).hasType (struct fields) = true →
            ∃ member, members[position]? = some member ∧
              (Value.struct members).field? spelling = some member.2 ∧
              member.2.hasType field.2 = true := by
  refine ⟨fun type => ?_, fun fields position field spelling accepted here same => ?_⟩
  · rw [check_eq_ok_iff]
    exact ⟨fun wellFormed => ⟨wellFormed.resolved, wellFormed.fields⟩,
      fun ⟨resolved, fields⟩ => ⟨resolved, fields⟩⟩
  · obtain ⟨-, distinct, -⟩ := check_struct_eq_ok.mp accepted
    have found : (struct fields).field? spelling = some field :=
      findNamed?_of_distinct (pairwise_sameName_iff.mp distinct) here same
    refine ⟨found, ?_, fun members typed => Value.field?_of_respelled typed distinct here same⟩
    rw [fieldType, found]

/-- Letter case may differ between a declaration, a value and a lookup, here in the second field of
a structure with a structure inside. -/
theorem lookup_unambiguous_of_respelled :
    let fields : List (String × DataType) :=
      [("at", .struct [("x", .int), ("y", .double)]), ("Label", .string)]
    let value : Value :=
      .struct [("AT", .struct [("X", .int (.wrap 1)), ("y", .null)]), ("label", .string "a")]
    (struct fields).check = .ok () ∧ value.hasType (struct fields) = true ∧
      (struct fields).field? "LABEL" = some ("Label", .string) ∧
      value.field? "LABEL" = some (.string "a") := by
  intro fields value
  have accepted : (struct fields).check = .ok () := by decide
  have typed : value.hasType (struct fields) = true := by decide
  obtain ⟨found, -, inValue⟩ :=
    lookup_unambiguous.2 fields 1 ("Label", .string) "LABEL" accepted rfl (by decide)
  obtain ⟨member, here, foundMember, -⟩ := inValue _ typed
  cases here
  exact ⟨accepted, typed, found, foundMember⟩

end DataType

end ScalarSql
