import Mathlib.Tactic.ByContra
import ScalarSql.Proofs.Value.Conversion
import ScalarSql.Proofs.Value.Order

/-!
# Sorting values

`Value.sortOrder` fills the gaps of the comparison.  It puts `NULL` first, and it lets two values
tie that do not compare.  It is reflexive and turns around with its arguments, and it is
transitive where no gap is filled, `Value.sortOrder_then`.  A gap that is filled breaks
transitivity: the double that is not a number ties with all doubles, and a structure whose
members are `NULL` ties with all structures of its type.

**Types.**  So whether sorting sees a total preorder is a question of the type,
`DataType.sortsTotally_iff`: it does for all types but `DOUBLE` and the structures in which one
value can be below another.  `DataType.separates` finds these: the first field that tells
values apart comes after fields only whose values can tie.
-/

set_option autoImplicit false

namespace ScalarSql

namespace Value

/-! ## The order of sorting -/

/-- The order of two values is settled by the comparison or by a `NULL`, and no gap is
filled. -/
def Settled (left right : Value) : Prop :=
  left.isNull = true ∨ right.isNull = true ∨ (compare? left right).isSome = true

theorem sortOrder_of_present {left right : Value} (leftPresent : left.isNull = false)
    (rightPresent : right.isNull = false) :
    sortOrder left right = (compare? left right).getD .eq := by
  rw [sortOrder, leftPresent, rightPresent]

theorem sortOrder_swap (left right : Value) :
    sortOrder right left = (sortOrder left right).swap := by
  unfold sortOrder
  rw [compare?_swap left right]
  cases left.isNull <;> cases right.isNull <;> cases compare? left right <;> rfl

theorem sortOrder_self (value : Value) : sortOrder value value = .eq := by
  have swapped := sortOrder_swap value value
  cases order : sortOrder value value <;> rw [order] at swapped <;> first | rfl | cases swapped

/-- An order in which a `NULL` ties with a `NULL` and stands where `standing` puts it, and other
values are compared. -/
def nullsApart (standing : Bool → Bool) (cmp : Value → Value → Ordering) (left right : Value) :
    Ordering :=
  (compare (standing left.isNull) (standing right.isNull)).then (cmp left right)

/-- An order with the `NULL`s apart composes if comparing does, and only values that are all
there are compared. -/
theorem nullsApart_then {standing : Bool → Bool} (apart : Function.Injective standing)
    {cmp : Value → Value → Ordering} (missing : cmp .null .null = .eq)
    {first second third : Value}
    (compared : first.isNull = false → second.isNull = false → third.isNull = false →
      Onward (cmp first second) (cmp second third) →
      cmp first third = (cmp first second).then (cmp second third))
    (onward : Onward (nullsApart standing cmp first second)
      (nullsApart standing cmp second third)) :
    nullsApart standing cmp first third
      = (nullsApart standing cmp first second).then (nullsApart standing cmp second third) := by
  refine then_then compare_then (fun sameHere sameThere => ?_) onward
  rw [Std.LawfulEqCmp.compare_eq_iff_eq, apart.eq_iff] at sameHere sameThere
  rw [sameThere] at sameHere
  cases thirdNull : third.isNull with
  | false =>
      rw [thirdNull] at sameHere sameThere
      exact compared sameHere sameThere thirdNull
  | true =>
      rw [thirdNull] at sameHere sameThere
      rw [isNull_iff.mp sameHere, isNull_iff.mp sameThere, isNull_iff.mp thirdNull, missing]
      exact fun _ => rfl

/-- Sorting first looks at which values are there, and then compares them. -/
theorem sortOrder_eq (left right : Value) :
    sortOrder left right
      = nullsApart not (fun left right => (compare? left right).getD .eq) left right := by
  cases leftNull : left.isNull with
  | true =>
      rw [isNull_iff.mp leftNull, sortOrder, nullsApart]
      cases right.isNull <;> rfl
  | false =>
      rw [sortOrder, nullsApart, leftNull]
      cases right.isNull <;> rfl

/-- Sorting composes if comparing does. -/
theorem sortOrder_then_of_present {first second third : Value}
    (compared : first.isNull = false → second.isNull = false → third.isNull = false →
      Onward ((compare? first second).getD .eq) ((compare? second third).getD .eq) →
      (compare? first third).getD .eq
        = ((compare? first second).getD .eq).then ((compare? second third).getD .eq))
    (onward : Onward (sortOrder first second) (sortOrder second third)) :
    sortOrder first third = (sortOrder first second).then (sortOrder second third) := by
  rw [sortOrder_eq, sortOrder_eq] at onward
  rw [sortOrder_eq first third, sortOrder_eq first second, sortOrder_eq second third]
  exact nullsApart_then (fun _ _ => Bool.not_inj) rfl compared onward

/-- What lies between two values that are there is no `NULL`. -/
theorem present_between {first second third : Value} (firstPresent : first.isNull = false)
    (thirdPresent : third.isNull = false)
    (onward : Onward (sortOrder first second) (sortOrder second third)) :
    second.isNull = false := by
  by_contra missing
  rw [Bool.not_eq_false] at missing
  simp only [sortOrder, firstPresent, thirdPresent, missing] at onward
  exact not_onward_gt_lt onward

/-- **Sorting is transitive where no gap is filled**, and then the third order is settled as
well. -/
theorem sortOrder_then {type : DataType} {first second third : Value}
    (ofFirst : first.hasType type = true) (ofSecond : second.hasType type = true)
    (ofThird : third.hasType type = true) (step : Settled first second)
    (next : Settled second third)
    (onward : Onward (sortOrder first second) (sortOrder second third)) :
    sortOrder first third = (sortOrder first second).then (sortOrder second third) ∧
      Settled first third := by
  have composed : first.isNull = false → second.isNull = false → third.isNull = false →
      Onward ((compare? first second).getD .eq) ((compare? second third).getD .eq) →
      ∃ here there, compare? first second = some here ∧ compare? second third = some there ∧
        compare? first third = some (here.then there) := by
    intro firstPresent secondPresent thirdPresent onward
    simp only [Settled, firstPresent, secondPresent, thirdPresent, Bool.false_eq_true, false_or,
      Option.isSome_iff_exists] at step next
    obtain ⟨here, stepped⟩ := step
    obtain ⟨there, steppedOn⟩ := next
    rw [stepped, steppedOn] at onward
    exact ⟨here, there, stepped, steppedOn,
      compare?_then type ofFirst ofSecond ofThird stepped steppedOn onward⟩
  constructor
  · refine sortOrder_then_of_present
      (fun firstPresent secondPresent thirdPresent onward => ?_) onward
    obtain ⟨here, there, stepped, steppedOn, whole⟩ :=
      composed firstPresent secondPresent thirdPresent onward
    rw [stepped, steppedOn, whole]
    rfl
  · cases firstNull : first.isNull with
    | true => exact .inl firstNull
    | false =>
        cases thirdNull : third.isNull with
        | true => exact .inr (.inl thirdNull)
        | false =>
            have secondPresent := present_between firstNull thirdNull onward
            rw [sortOrder_of_present firstNull secondPresent,
              sortOrder_of_present secondPresent thirdNull] at onward
            obtain ⟨_, _, -, -, whole⟩ := composed firstNull secondPresent thirdNull onward
            exact .inr (.inr (by rw [whole]; rfl))

end Value

/-! ## Types whose values are sorted by a total preorder -/

namespace DataType

mutual

/-- Whether values of the type can compare as equal. -/
def ties : DataType → Bool
  | .struct fields => fieldsTie fields
  | .array _ | .unresolved => false
  | _ => true

/-- Whether the values of all fields can compare as equal. -/
def fieldsTie : List (String × DataType) → Bool
  | [] => true
  | (_, type) :: rest => type.ties && fieldsTie rest

end

mutual

/-- Whether one value of the type can be below another. -/
def separates : DataType → Bool
  | .struct fields => fieldsSeparate fields
  | .array _ | .unresolved => false
  | _ => true

/-- Whether a field can tell values apart when all fields before it tie. -/
def fieldsSeparate : List (String × DataType) → Bool
  | [] => false
  | (_, type) :: rest => type.separates || type.ties && fieldsSeparate rest

end

/-- Sorting compares the values of the type by a total preorder, as a stable sort needs it. -/
structure SortsTotally (type : DataType) : Prop where
  refl : ∀ value : Value, value.hasType type = true → Value.sortOrder value value = .eq
  swap : ∀ first second : Value, first.hasType type = true → second.hasType type = true →
    Value.sortOrder second first = (Value.sortOrder first second).swap
  trans : ∀ first second third : Value, first.hasType type = true → second.hasType type = true →
    third.hasType type = true → Value.sortOrder first second ≠ .gt →
    Value.sortOrder second third ≠ .gt → Value.sortOrder first third ≠ .gt

end DataType

namespace Value

open DataType (fieldsTie fieldsSeparate)

mutual

/-- What a comparison shows of the type. -/
theorem of_compare? (type : DataType) {left right : Value} {order : Ordering}
    (ofLeft : left.hasType type = true) (ofRight : right.hasType type = true)
    (compared : compare? left right = some order) :
    (order = .eq → type.ties = true) ∧ (order ≠ .eq → type.separates = true) := by
  obtain ⟨leftPresent, rightPresent⟩ := present_of_compare? compared
  cases type with
  | struct fields =>
      obtain ⟨_, rfl, ofLefts⟩ := struct_of_hasType ofLeft leftPresent
      obtain ⟨_, rfl, ofRights⟩ := struct_of_hasType ofRight rightPresent
      exact of_compareMembers? fields ofLefts ofRights compared
  | array _ =>
      obtain ⟨_, rfl, -⟩ := array_of_hasType ofLeft leftPresent
      obtain ⟨_, rfl, -⟩ := array_of_hasType ofRight rightPresent
      cases compared
  | unresolved =>
      rw [eq_null_of_hasType_unresolved ofLeft] at leftPresent
      cases leftPresent
  | _ => exact ⟨fun _ => rfl, fun _ => rfl⟩

theorem of_compareMembers? : ∀ (fields : List (String × DataType))
    {lefts rights : List (String × Value)} {order : Ordering},
    membersHaveType lefts fields = true → membersHaveType rights fields = true →
    compareMembers? lefts rights = some order →
    (order = .eq → fieldsTie fields = true) ∧ (order ≠ .eq → fieldsSeparate fields = true)
  | [], [], [], _, _, _, compared => by
      cases compared
      exact ⟨fun _ => rfl, fun apart => absurd rfl apart⟩
  | (_, type) :: fields, (_, left) :: lefts, (_, right) :: rights, order, ofLefts, ofRights,
      compared => by
      simp only [membersHaveType, Bool.and_eq_true] at ofLefts ofRights
      rw [compareMembers?_cons, Option.bind_eq_some_iff] at compared
      obtain ⟨head, headCompared, tail⟩ := compared
      have shown := of_compare? type ofLefts.1.2 ofRights.1.2 headCompared
      cases head with
      | eq =>
          have later := of_compareMembers? fields ofLefts.2 ofRights.2 tail
          simp only [fieldsTie, fieldsSeparate, shown.1 rfl, Bool.true_and]
          exact ⟨later.1, fun apart => by rw [later.2 apart, Bool.or_true]⟩
      | lt | gt =>
          cases tail
          have separates : type.separates = true := shown.2 nofun
          exact ⟨nofun, fun _ => by rw [fieldsSeparate, separates, Bool.true_or]⟩

end

/-- A type without parts has two values, one below the other. -/
theorem exists_of_isBasic {type : DataType} (basic : type.isBasic = true) :
    ∃ lower upper : Value, lower.hasType type = true ∧ upper.hasType type = true ∧
      compare? lower lower = some .eq ∧ compare? lower upper = some .lt := by
  cases type with
  | struct _ | array _ | unresolved => cases basic
  | int =>
      exact ⟨.int ⟨0, by decide, by decide⟩, .int ⟨1, by decide, by decide⟩, rfl, rfl, rfl, rfl⟩
  | long =>
      exact ⟨.long ⟨0, by decide, by decide⟩, .long ⟨1, by decide, by decide⟩, rfl, rfl, rfl, rfl⟩
  | double => exact ⟨.double (.infinite true), .double (.infinite false), rfl, rfl, rfl, rfl⟩
  | string => exact ⟨.string "", .string "a", rfl, rfl, by decide, by decide⟩
  | boolean => exact ⟨.boolean false, .boolean true, rfl, rfl, rfl, rfl⟩
  | decimal =>
      exact ⟨.decimal .zero, .decimal ⟨false, 1, 0, by decide, by decide⟩, rfl, rfl, by decide,
        by decide⟩

mutual

theorem exists_of_ties (type : DataType) (ties : type.ties = true) :
    ∃ value : Value, value.hasType type = true ∧ compare? value value = some .eq := by
  by_cases basic : type.isBasic = true
  · obtain ⟨value, -, typed, -, same, -⟩ := exists_of_isBasic basic
    exact ⟨value, typed, same⟩
  · cases type with
    | struct fields =>
        obtain ⟨members, typed, same⟩ := exists_of_fieldsTie fields ties
        exact ⟨.struct members, typed, same⟩
    | array _ | unresolved => cases ties
    | _ => exact absurd rfl basic

theorem exists_of_fieldsTie : ∀ fields : List (String × DataType), fieldsTie fields = true →
    ∃ members, membersHaveType members fields = true ∧
      compareMembers? members members = some .eq
  | [], _ => ⟨[], rfl, rfl⟩
  | (name, type) :: fields, ties => by
      rw [fieldsTie, Bool.and_eq_true] at ties
      obtain ⟨value, typed, same⟩ := exists_of_ties type ties.1
      obtain ⟨members, membersTyped, membersSame⟩ := exists_of_fieldsTie fields ties.2
      refine ⟨(name, value) :: members, ?_, ?_⟩
      · simp only [membersHaveType, Text.sameName_refl, typed, membersTyped, Bool.and_self]
      · rw [compareMembers?_cons, same]
        exact membersSame

end

mutual

theorem exists_of_separates (type : DataType) (separates : type.separates = true) :
    ∃ lower upper : Value, lower.hasType type = true ∧ upper.hasType type = true ∧
      compare? lower upper = some .lt := by
  by_cases basic : type.isBasic = true
  · obtain ⟨lower, upper, lowerTyped, upperTyped, -, below⟩ := exists_of_isBasic basic
    exact ⟨lower, upper, lowerTyped, upperTyped, below⟩
  · cases type with
    | struct fields =>
        obtain ⟨lower, upper, lowerTyped, upperTyped, below⟩ :=
          exists_of_fieldsSeparate fields separates
        exact ⟨.struct lower, .struct upper, lowerTyped, upperTyped, below⟩
    | array _ | unresolved => cases separates
    | _ => exact absurd rfl basic

theorem exists_of_fieldsSeparate : ∀ fields : List (String × DataType),
    fieldsSeparate fields = true → ∃ lower upper,
      membersHaveType lower fields = true ∧ membersHaveType upper fields = true ∧
        compareMembers? lower upper = some .lt
  | (name, type) :: fields, separates => by
      rw [fieldsSeparate, Bool.or_eq_true, Bool.and_eq_true] at separates
      rcases separates with here | ⟨ties, later⟩
      · obtain ⟨lower, upper, lowerTyped, upperTyped, below⟩ := exists_of_separates type here
        refine ⟨(name, lower) :: nullMembers fields, (name, upper) :: nullMembers fields, ?_, ?_,
          ?_⟩
        · simp only [membersHaveType, Text.sameName_refl, lowerTyped, membersHaveType_nullMembers,
            Bool.and_self]
        · simp only [membersHaveType, Text.sameName_refl, upperTyped, membersHaveType_nullMembers,
            Bool.and_self]
        · rw [compareMembers?_cons, below]
          rfl
      · obtain ⟨value, typed, same⟩ := exists_of_ties type ties
        obtain ⟨lower, upper, lowerTyped, upperTyped, below⟩ :=
          exists_of_fieldsSeparate fields later
        refine ⟨(name, value) :: lower, (name, value) :: upper, ?_, ?_, ?_⟩
        · simp only [membersHaveType, Text.sameName_refl, typed, lowerTyped, Bool.and_self]
        · simp only [membersHaveType, Text.sameName_refl, typed, upperTyped, Bool.and_self]
        · rw [compareMembers?_cons, same]
          exact below

end

/-- A value that does not compare with two others ties with both, however these are ordered. -/
theorem not_sortsTotally {type : DataType} (lower upper apart : Value)
    (ofLower : lower.hasType type = true) (ofUpper : upper.hasType type = true)
    (ofApart : apart.hasType type = true) (present : apart.isNull = false)
    (below : compare? lower upper = some .lt) (fromUpper : compare? upper apart = none)
    (toLower : compare? apart lower = none) : ¬ type.SortsTotally := by
  intro total
  obtain ⟨lowerPresent, upperPresent⟩ := present_of_compare? below
  have step : sortOrder upper apart = .eq := by
    rw [sortOrder_of_present upperPresent present, fromUpper]
    rfl
  have next : sortOrder apart lower = .eq := by
    rw [sortOrder_of_present present lowerPresent, toLower]
    rfl
  have whole : sortOrder upper lower = .gt := by
    rw [sortOrder_of_present upperPresent lowerPresent, compare?_swap lower upper, below]
    rfl
  refine total.trans upper apart lower ofUpper ofApart ofLower ?_ ?_ whole
  · rw [step]
    decide
  · rw [next]
    decide

/-- Values of a type that cannot tell them apart all tie. -/
theorem getD_compare?_of_not_separates {type : DataType} (alike : type.separates = false)
    {left right : Value} (ofLeft : left.hasType type = true) (ofRight : right.hasType type = true) :
    (compare? left right).getD .eq = .eq := by
  cases compared : compare? left right with
  | none => rfl
  | some order =>
      by_contra apart
      rw [(of_compare? type ofLeft ofRight compared).2 apart] at alike
      cases alike

/-- Comparing composes on the values of a type with gaps only where all values tie. -/
theorem getD_compare?_then {type : DataType} (notDouble : type ≠ .double)
    (alike : ∀ fields, type = .struct fields → fieldsSeparate fields = false)
    {first second third : Value} (ofFirst : first.hasType type = true)
    (ofSecond : second.hasType type = true) (ofThird : third.hasType type = true)
    (firstPresent : first.isNull = false) (secondPresent : second.isNull = false)
    (thirdPresent : third.isNull = false)
    (onward : Onward ((compare? first second).getD .eq) ((compare? second third).getD .eq)) :
    (compare? first third).getD .eq
      = ((compare? first second).getD .eq).then ((compare? second third).getD .eq) := by
  by_cases basic : type.isBasic = true
  · -- Values of a type without parts compare, because doubles are left out.
    obtain ⟨kind, floats, isKind⟩ := exists_kind_of_hasType basic
    exact getD_compare?_then_of_kind (isKind first ofFirst firstPresent)
      (isKind second ofSecond secondPresent) (isKind third ofThird thirdPresent)
      (mt floats notDouble) onward
  · have alike : type.separates = false := by
      cases type with
      | struct fields => exact alike fields rfl
      | array _ | unresolved => rfl
      | _ => exact absurd rfl basic
    rw [getD_compare?_of_not_separates alike ofFirst ofSecond,
      getD_compare?_of_not_separates alike ofSecond ofThird,
      getD_compare?_of_not_separates alike ofFirst ofThird]
    rfl

/-- Members that are all `NULL` do not compare with any others. -/
theorem compareMembers?_nullMembers {fields : List (String × DataType)}
    {members : List (String × Value)} (typed : membersHaveType members fields = true)
    (declared : fields ≠ []) : compareMembers? members (nullMembers fields) = none := by
  cases fields with
  | nil => exact absurd rfl declared
  | cons field fields =>
      cases members with
      | nil => cases typed
      | cons member members =>
          obtain ⟨name, value⟩ := member
          rw [nullMembers, List.map_cons, compareMembers?_cons]
          cases value <;> rfl

end Value

namespace DataType

open Value

theorem not_sortsTotally_double : ¬ SortsTotally .double :=
  not_sortsTotally (.double (.infinite true)) (.double (.infinite false)) (.double .nan)
    rfl rfl rfl rfl rfl rfl rfl

theorem not_sortsTotally_struct {fields : List (String × DataType)}
    (separates : fieldsSeparate fields = true) : ¬ SortsTotally (.struct fields) := by
  have declared : fields ≠ [] := by
    rintro rfl
    cases separates
  obtain ⟨lower, upper, ofLower, ofUpper, below⟩ := exists_of_fieldsSeparate fields separates
  have fromUpper : compareMembers? upper (nullMembers fields) = none :=
    compareMembers?_nullMembers ofUpper declared
  have toLower : compareMembers? (nullMembers fields) lower = none := by
    rw [compareMembers?_swap lower, compareMembers?_nullMembers ofLower declared]
    rfl
  exact not_sortsTotally (.struct lower) (.struct upper) (.struct (nullMembers fields)) ofLower
    ofUpper (membersHaveType_nullMembers fields) rfl below fromUpper toLower

/-- **The types whose values are sorted by a total preorder.** -/
theorem sortsTotally_iff (type : DataType) :
    type.SortsTotally ↔ type ≠ .double ∧
      ∀ fields, type = .struct fields → fieldsSeparate fields = false := by
  constructor
  · intro total
    refine ⟨?_, ?_⟩
    · rintro rfl
      exact not_sortsTotally_double total
    · rintro fields rfl
      exact Bool.eq_false_iff.mpr fun separates => not_sortsTotally_struct separates total
  · rintro ⟨notDouble, alike⟩
    refine ⟨fun value _ => value.sortOrder_self,
      fun first second _ _ => first.sortOrder_swap second,
      fun first second third ofFirst ofSecond ofThird step next => ?_⟩
    have composed : sortOrder first third
        = (sortOrder first second).then (sortOrder second third) :=
      sortOrder_then_of_present (getD_compare?_then notDouble alike ofFirst ofSecond ofThird)
        (onward_of_ne (by decide) step next)
    rw [composed]
    exact then_ne step next

/-- **The laws of sorting.**  The order of sorting is reflexive and turns around with its
arguments, for all values.  It is transitive on values of one type where both steps are settled,
and then the whole is settled as well.  It is transitive on all values of a type, and so a total
preorder, if and only if the type is neither `DOUBLE` nor a structure whose fields tell values
apart. -/
theorem sorting_laws (type : DataType) :
    (∀ first second : Value, sortOrder first first = .eq ∧
      sortOrder second first = (sortOrder first second).swap) ∧
    (∀ first second third : Value, first.hasType type = true → second.hasType type = true →
      third.hasType type = true → Settled first second → Settled second third →
      sortOrder first second ≠ .gt → sortOrder second third ≠ .gt →
      sortOrder first third ≠ .gt ∧ Settled first third) ∧
    (type.SortsTotally ↔ type ≠ .double ∧
      ∀ fields, type = .struct fields → fieldsSeparate fields = false) := by
  refine ⟨fun first second => ⟨first.sortOrder_self, first.sortOrder_swap second⟩, ?_,
    type.sortsTotally_iff⟩
  intro first second third ofFirst ofSecond ofThird settled settledNext step next
  obtain ⟨whole, wholeSettled⟩ :=
    sortOrder_then ofFirst ofSecond ofThird settled settledNext (onward_of_ne (by decide) step next)
  rw [whole]
  exact ⟨then_ne step next, wholeSettled⟩

/-- The value that is not a number ties with two doubles that are apart, and so does a structure
with a missing member between two structures.  A structure that begins with an array has no
order. -/
theorem sorting_laws_of_ties :
    (let large : Value := .double (.infinite false)
     let zero : Value := .double (.zero true)
     sortOrder large (.double .nan) = .eq ∧ sortOrder (.double .nan) zero = .eq ∧
       sortOrder large zero = .gt ∧ ¬ SortsTotally .double) ∧
    (let pair := fun member : Value => Value.struct [("x", member), ("y", .null)]
     sortOrder (pair (.string "b")) (pair .null) = .eq ∧
       sortOrder (pair .null) (pair (.string "a")) = .eq ∧
       sortOrder (pair (.string "b")) (pair (.string "a")) = .gt ∧
       ¬ SortsTotally (.struct [("x", .string), ("y", .long)])) ∧
    SortsTotally .decimal ∧ SortsTotally (.struct [("xs", .array .int), ("y", .long)]) := by
  refine ⟨⟨by decide, by decide, by decide, ?_⟩, ⟨by decide, by decide, by decide, ?_⟩, ?_, ?_⟩
  · rw [(sorting_laws .double).2.2]
    exact fun allowed => allowed.1 rfl
  · rw [(sorting_laws (.struct [("x", .string), ("y", .long)])).2.2]
    exact fun allowed => absurd (allowed.2 _ rfl) (by decide)
  · rw [(sorting_laws .decimal).2.2]
    exact ⟨nofun, nofun⟩
  · rw [(sorting_laws (.struct [("xs", .array .int), ("y", .long)])).2.2]
    refine ⟨nofun, ?_⟩
    rintro _ ⟨⟩
    decide

end DataType

end ScalarSql
