import ScalarSql.Proofs.Aggregate.Groups
import ScalarSql.Proofs.Expr.Typing
import ScalarSql.Proofs.Value.Order

/-!
# Keys that compare as equal

Comparison and grouping are two recursions over values.  A comparison looks at the members of
structures by position and does not see their names, and values match a type whatever the case of
the letters in these names.  A key has its names in it, letter by letter.

So values of one type that compare as equal are the same key if and only if their members are
spelled alike, `Value.same_iff_of_equal`, and everything else about them agrees: two decimals that
are one number under different scales are one key.  What this means for the groups of rows is
`groupRows_equal_keys`.
-/

set_option autoImplicit false

namespace ScalarSql

/-! ## Types without doubles -/

namespace DataType

mutual

/-- Whether any part of the type is `DOUBLE`. -/
def hasDouble : DataType → Bool
  | .double => true
  | .struct fields => fieldsHaveDouble fields
  | .array element => element.hasDouble
  | _ => false

/-- Whether any part of the type of a field is `DOUBLE`. -/
def fieldsHaveDouble : List (String × DataType) → Bool
  | [] => false
  | (_, type) :: rest => type.hasDouble || fieldsHaveDouble rest

end

end DataType

namespace Value

mutual

/-- There are no doubles among the values of a type without them. -/
theorem hasDouble_of_hasType : ∀ (value : Value) {type : DataType}, type.hasDouble = false →
    value.hasType type = true → value.hasDouble = false
  | .null, _, _, _ | .int _, _, _, _ | .long _, _, _, _ | .string _, _, _, _
  | .boolean _, _, _, _ | .decimal _, _, _, _ => rfl
  | .double _, type, noDouble, typed => by
      cases type with
      | double => cases noDouble
      | _ => cases typed
  | .struct members, type, noDouble, typed => by
      cases type with
      | struct fields => exact membersHaveDouble_of_hasType members noDouble typed
      | _ => cases typed
  | .array items, type, noDouble, typed => by
      cases type with
      | array element =>
          have elementNoDouble : element.hasDouble = false := noDouble
          exact itemsHaveDouble_of_hasType items elementNoDouble typed
      | _ => cases typed

theorem membersHaveDouble_of_hasType : ∀ (members : List (String × Value))
    {fields : List (String × DataType)}, DataType.fieldsHaveDouble fields = false →
    membersHaveType members fields = true → membersHaveDouble members = false
  | [], _, _, _ => rfl
  | (_, value) :: members, (_, type) :: fields, noDouble, typed => by
      rw [DataType.fieldsHaveDouble, Bool.or_eq_false_iff] at noDouble
      simp only [membersHaveType, Bool.and_eq_true] at typed
      rw [membersHaveDouble, hasDouble_of_hasType value noDouble.1 typed.1.2,
        membersHaveDouble_of_hasType members noDouble.2 typed.2]
      rfl

theorem itemsHaveDouble_of_hasType : ∀ (items : List Value) {element : DataType},
    element.hasDouble = false → itemsHaveType items element = true → itemsHaveDouble items = false
  | [], _, _, _ => rfl
  | item :: rest, element, noDouble, typed => by
      rw [itemsHaveType, Bool.and_eq_true] at typed
      rw [itemsHaveDouble, hasDouble_of_hasType item noDouble typed.1,
        itemsHaveDouble_of_hasType rest noDouble typed.2]
      rfl

end

/-! ## Names of members -/

mutual

/-- The names of members at every depth, each before those inside the member. -/
def memberNames : Value → List String
  | .struct members => namesOfMembers members
  | .array items => namesOfItems items
  | _ => []

/-- The names of members and of what is inside them. -/
def namesOfMembers : List (String × Value) → List String
  | [] => []
  | (name, value) :: rest => name :: (value.memberNames ++ namesOfMembers rest)

/-- The names of members inside items. -/
def namesOfItems : List Value → List String
  | [] => []
  | item :: rest => item.memberNames ++ namesOfItems rest

end

theorem memberNames_of_isBasic {type : DataType} {value : Value} (basic : type.isBasic = true)
    (typed : value.hasType type = true) : value.memberNames = [] := by
  cases value with
  | struct _ | array _ => cases type <;> first | cases typed | cases basic
  | _ => rfl

/-! ## Equal values -/

/-- What the comparison of SQL calls equal. -/
theorem apply_eq_iff {left right : Value} :
    Operator.apply (.comparison .eq) left right = .ok (.boolean true) ↔
      compare? left right = some .eq := by
  rw [Operator.apply]
  cases compare? left right with
  | none => simp [ofTruth]
  | some order => cases order <;> simp [ofTruth, Comparison.holds]

/-- **Equal values without parts** are one key. -/
theorem same_of_equal {type : DataType} {left right : Value} (basic : type.isBasic = true)
    (noDouble : type.hasDouble = false) (ofLeft : left.hasType type = true)
    (ofRight : right.hasType type = true) (equal : compare? left right = some .eq) :
    same left right = true := by
  obtain ⟨leftPresent, rightPresent⟩ := present_of_compare? equal
  cases type with
  | struct _ | array _ | unresolved => cases basic
  | double => cases noDouble
  | int | long | string | boolean =>
      cases left <;> cases ofLeft <;> try cases leftPresent
      cases right <;> cases ofRight <;> try cases rightPresent
      have sameValues := Std.LawfulEqCmp.eq_of_compare (Option.some.inj equal)
      exact beq_iff_eq.mpr sameValues
  | decimal =>
      cases left <;> cases ofLeft <;> try cases leftPresent
      cases right <;> cases ofRight <;> try cases rightPresent
      next left right =>
        have sameUnits : compare left.units right.units = .eq := Option.some.inj equal
        exact beq_iff_eq.mpr (Std.LawfulEqCmp.eq_of_compare sameUnits)

mutual

/-- **Equal values of one type** are one key if and only if their members are spelled alike. -/
theorem same_iff_of_equal (type : DataType) {left right : Value} (noDouble : type.hasDouble = false)
    (ofLeft : left.hasType type = true) (ofRight : right.hasType type = true)
    (equal : compare? left right = some .eq) :
    left.memberNames.length = right.memberNames.length ∧
      (same left right = true ↔ left.memberNames = right.memberNames) := by
  obtain ⟨leftPresent, rightPresent⟩ := present_of_compare? equal
  by_cases basic : type.isBasic = true
  · have areSame := same_of_equal basic noDouble ofLeft ofRight equal
    rw [memberNames_of_isBasic basic ofLeft, memberNames_of_isBasic basic ofRight]
    exact ⟨rfl, fun _ => rfl, fun _ => areSame⟩
  · cases type with
    | struct fields =>
        obtain ⟨_, rfl, ofLefts⟩ := struct_of_hasType ofLeft leftPresent
        obtain ⟨_, rfl, ofRights⟩ := struct_of_hasType ofRight rightPresent
        exact sameMembers_iff_of_equal fields noDouble ofLefts ofRights equal
    | array _ =>
        obtain ⟨_, rfl, -⟩ := array_of_hasType ofLeft leftPresent
        obtain ⟨_, rfl, -⟩ := array_of_hasType ofRight rightPresent
        cases equal
    | unresolved =>
        rw [eq_null_of_hasType_unresolved ofLeft] at leftPresent
        cases leftPresent
    | _ => exact absurd rfl basic

theorem sameMembers_iff_of_equal : ∀ (fields : List (String × DataType))
    {lefts rights : List (String × Value)}, DataType.fieldsHaveDouble fields = false →
    membersHaveType lefts fields = true → membersHaveType rights fields = true →
    compareMembers? lefts rights = some .eq →
    (namesOfMembers lefts).length = (namesOfMembers rights).length ∧
      (sameMembers lefts rights = true ↔ namesOfMembers lefts = namesOfMembers rights)
  | [], [], [], _, _, _, _ => ⟨rfl, fun _ => rfl, fun _ => rfl⟩
  | (_, type) :: fields, (leftName, left) :: lefts, (rightName, right) :: rights, noDouble,
      ofLefts, ofRights, equal => by
      rw [DataType.fieldsHaveDouble, Bool.or_eq_false_iff] at noDouble
      simp only [membersHaveType, Bool.and_eq_true] at ofLefts ofRights
      rw [compareMembers?_cons, Option.bind_eq_some_iff] at equal
      obtain ⟨order, here, later⟩ := equal
      cases order with
      | lt | gt => cases later
      | eq =>
          obtain ⟨hereLength, hereSame⟩ :=
            same_iff_of_equal type noDouble.1 ofLefts.1.2 ofRights.1.2 here
          obtain ⟨laterLength, laterSame⟩ :=
            sameMembers_iff_of_equal fields noDouble.2 ofLefts.2 ofRights.2 later
          constructor
          · simp only [namesOfMembers, List.length_cons, List.length_append, hereLength,
              laterLength]
          · have parts : left.memberNames ++ namesOfMembers lefts
                = right.memberNames ++ namesOfMembers rights ↔
                left.memberNames = right.memberNames ∧
                  namesOfMembers lefts = namesOfMembers rights :=
              ⟨fun joined => List.append_inj joined hereLength, fun both => by rw [both.1, both.2]⟩
            rw [sameMembers, namesOfMembers, namesOfMembers, List.cons.injEq, parts,
              Bool.and_eq_true, Bool.and_eq_true, beq_iff_eq, hereSame, laterSame, and_assoc]

end

/-- Equal values that are no structures have no members. -/
theorem memberNames_eq_of_equal {type : DataType} {left right : Value}
    (plain : ∀ fields, type ≠ .struct fields) (ofLeft : left.hasType type = true)
    (ofRight : right.hasType type = true) (equal : compare? left right = some .eq) :
    left.memberNames = right.memberNames := by
  obtain ⟨leftPresent, rightPresent⟩ := present_of_compare? equal
  cases type with
  | struct fields => exact absurd rfl (plain fields)
  | array _ =>
      obtain ⟨_, rfl, -⟩ := array_of_hasType ofLeft leftPresent
      obtain ⟨_, rfl, -⟩ := array_of_hasType ofRight rightPresent
      cases equal
  | unresolved =>
      rw [eq_null_of_hasType_unresolved ofLeft] at leftPresent
      cases leftPresent
  | _ => rw [memberNames_of_isBasic rfl ofLeft, memberNames_of_isBasic rfl ofRight]

/-- The values of keys with several items. -/
theorem sameItems_iff_of_equal {types : List DataType} {lefts rights : List Value}
    (noDouble : ∀ type ∈ types, type.hasDouble = false)
    (ofLefts : List.Forall₂ (fun value type => value.hasType type = true) lefts types)
    (ofRights : List.Forall₂ (fun value type => value.hasType type = true) rights types)
    (equal : List.Forall₂ (fun left right => compare? left right = some .eq) lefts rights) :
    sameItems lefts rights = true ↔ lefts.map memberNames = rights.map memberNames := by
  induction ofLefts generalizing rights with
  | nil =>
      cases equal
      exact ⟨fun _ => rfl, fun _ => rfl⟩
  | @cons left type lefts types ofLeft _ ih =>
      rw [List.forall_mem_cons] at noDouble
      cases ofRights with
      | cons ofRight ofRights =>
          cases equal with
          | cons here later =>
              rw [sameItems, Bool.and_eq_true, ih noDouble.2 ofRights later,
                (same_iff_of_equal type noDouble.1 ofLeft ofRight here).2, List.map_cons,
                List.map_cons, List.cons.injEq]

end Value

/-! ## Rows -/

namespace KeyedRow

/-- Two rows fall into one group: they share the key of one of the first rows. -/
def Together (rows : List KeyedRow) (left right : KeyedRow) : Prop :=
  ∃ first ∈ firsts rows, left ∈ sharing rows first ∧ right ∈ sharing rows first

/-- Rows with keys without doubles fall into one group if their keys are the same. -/
theorem together_iff {rows : List KeyedRow} {left right : KeyedRow}
    (exact : ∀ row ∈ rows, row.Exact) (inLeft : left ∈ rows) (inRight : right ∈ rows) :
    Together rows left right ↔ left.sharesKey right = true := by
  constructor
  · rintro ⟨first, isFirst, leftShares, rightShares⟩
    have firstExact := exact first (mem_firsts.mp isFirst).1
    have toLeft := (List.mem_filter.mp leftShares).2
    have toRight := (List.mem_filter.mp rightShares).2
    exact sharesKey_trans (exact left inLeft) firstExact
      (sharesKey_symm firstExact (exact left inLeft) toLeft) toRight
  · intro shares
    obtain ⟨first, isFirst, toLeft⟩ := exists_first exact inLeft
    have firstExact := exact first (mem_firsts.mp isFirst).1
    have toRight := sharesKey_trans firstExact (exact left inLeft) toLeft shares
    exact ⟨first, isFirst, List.mem_filter.mpr ⟨inLeft, toLeft⟩,
      List.mem_filter.mpr ⟨inRight, toRight⟩⟩

end KeyedRow

/-- Grouping by keys of given types, with the rows that it reads. -/
theorem groupRows_of_typed_keys {types : List DataType}
    (noDouble : ∀ type ∈ types, type.hasDouble = false) {schema : Schema} {policy : FailurePolicy}
    {keys : List Expr} {aggregates : List TypedAggregate} {rows output : List Row}
    (someKeys : keys ≠ [])
    (typed : ∀ (index : Nat) (row : Row) (key : List Value), rows[index]? = some row →
      Expr.evaluateAll { schema, policy, row, index } keys = .ok key →
        List.Forall₂ (fun value type => value.hasType type = true) key types)
    (grouped : groupRows schema policy keys aggregates rows = .ok output) :
    ∃ keyed, List.Forall₂ (KeyedRow.Reads schema policy keys) rows.zipIdx keyed ∧
      List.Forall₂ (Group.Summarizes schema policy aggregates keyed) (KeyedRow.firsts keyed)
        output ∧
      ∀ row ∈ keyed, row.Exact ∧
        List.Forall₂ (fun value type => value.hasType type = true) row.key types := by
  have ofTypes : ∀ input ∈ rows.zipIdx, ∀ keyed : KeyedRow,
      keyed.Reads schema policy keys input → keyed.Exact ∧
        List.Forall₂ (fun value type => value.hasType type = true) keyed.key types := by
    rintro ⟨row, index⟩ member ⟨_, _, key⟩ ⟨rfl, rfl, evaluated⟩
    have ofKey := typed _ _ key (List.mem_zipIdx_iff_getElem?.mp member) evaluated
    refine ⟨Value.itemsHaveDouble_eq_false.mpr ?_, ofKey⟩
    exact forall_mem_of_forall₂ ofKey.flip noDouble fun type value ofType noDoubleType =>
      value.hasDouble_of_hasType noDoubleType ofType
  unfold groupRows at grouped
  split at grouped
  · cases grouped
  · next groups inserted =>
      obtain ⟨keyed, read, -, -, collected⟩ :=
        Group.represents_of_insertRows Group.represents_nil nofun
          (fun input member keyed reads => (ofTypes input member keyed reads).1) inserted
      rw [List.nil_append] at collected
      have noFresh : ¬ (groups.isEmpty && keys.isEmpty) = true := by
        rw [Bool.and_eq_true, List.isEmpty_iff, List.isEmpty_iff]
        exact fun both => someKeys both.2
      rw [if_neg noFresh] at grouped
      exact ⟨keyed, read, Group.summarizes_of_finishRows collected grouped,
        forall_mem_of_forall₂ read (fun _ member => member)
          fun input row reads member => ofTypes input member row reads⟩

/-- **Keys that compare as equal.**  Let two values of a type without doubles compare as equal.  If
their members are spelled alike, then they are the same and hash alike, and otherwise they are not
the same.  Only values of structure types may be spelled differently.  So of the rows that are
grouped by keys of such types, two whose keys compare as equal fall into one group if and only if
the members in their keys are spelled alike. -/
theorem groupRows_equal_keys {types : List DataType}
    (noDouble : ∀ type ∈ types, type.hasDouble = false) :
    (∀ type ∈ types, ∀ left right : Value,
      left.hasType type = true → right.hasType type = true →
      Operator.apply (.comparison .eq) left right = .ok (.boolean true) →
        (left.memberNames = right.memberNames →
          Value.same left right = true ∧ left.hashWords = right.hashWords) ∧
        (left.memberNames ≠ right.memberNames → Value.same left right = false) ∧
        ((∀ fields, type ≠ .struct fields) → left.memberNames = right.memberNames)) ∧
    ∀ (schema : Schema) (policy : FailurePolicy) (keys : List Expr)
      (aggregates : List TypedAggregate) (rows output : List Row), keys ≠ [] →
      (∀ (index : Nat) (row : Row) (key : List Value), rows[index]? = some row →
        Expr.evaluateAll { schema, policy, row, index } keys = .ok key →
          List.Forall₂ (fun value type => value.hasType type = true) key types) →
      groupRows schema policy keys aggregates rows = .ok output →
        ∃ keyed, List.Forall₂ (KeyedRow.Reads schema policy keys) rows.zipIdx keyed ∧
          List.Forall₂ (Group.Summarizes schema policy aggregates keyed) (KeyedRow.firsts keyed)
            output ∧
          ∀ left ∈ keyed, ∀ right ∈ keyed,
            List.Forall₂ (fun leftKey rightKey =>
              Operator.apply (.comparison .eq) leftKey rightKey = .ok (.boolean true))
              left.key right.key →
            (KeyedRow.Together keyed left right ↔
              left.key.map Value.memberNames = right.key.map Value.memberNames) := by
  constructor
  · intro type member left right ofLeft ofRight applied
    have equal := Value.apply_eq_iff.mp applied
    have noDoubleType := noDouble type member
    have spelled := (Value.same_iff_of_equal type noDoubleType ofLeft ofRight equal).2
    refine ⟨fun alike => ?_, fun apart => ?_, fun plain => ?_⟩
    · have areSame := spelled.mpr alike
      exact ⟨areSame, Value.hashWords_eq_of_same
        (Value.hasDouble_of_hasType left noDoubleType ofLeft) areSame⟩
    · rw [← Bool.not_eq_true, spelled]
      exact apart
    · exact Value.memberNames_eq_of_equal plain ofLeft ofRight equal
  · intro schema policy keys aggregates rows output someKeys typed grouped
    obtain ⟨keyed, read, summarized, each⟩ :=
      groupRows_of_typed_keys noDouble someKeys typed grouped
    have exact : ∀ row ∈ keyed, row.Exact := fun row member => (each row member).1
    refine ⟨keyed, read, summarized, fun left inLeft right inRight applied => ?_⟩
    rw [KeyedRow.together_iff exact inLeft inRight, KeyedRow.sharesKey]
    exact Value.sameItems_iff_of_equal noDouble (each left inLeft).2 (each right inRight).2
      (applied.imp fun _ _ => Value.apply_eq_iff.mp)

/-- Another scale of a decimal inside a structure is the same key, and another letter case in the
name of the member is not, while both compare as equal. -/
theorem groupRows_equal_keys_of_case :
    let plain : Value := .struct [("x", .decimal ⟨false, 1, 0, by decide, by decide⟩)]
    let precise : Value := .struct [("x", .decimal ⟨false, 100, 2, by decide, by decide⟩)]
    let capital : Value := .struct [("X", .decimal ⟨false, 1, 0, by decide, by decide⟩)]
    let record : DataType := .struct [("x", .decimal)]
    let schema : Schema := { columns := [⟨"p", .struct [("x", .decimal)]⟩] }
    let rows : List Row := [[plain], [capital], [precise]]
    let aggregates : List TypedAggregate := [⟨⟨.count, .column "p", "c"⟩, .long⟩]
    let output : List Row :=
      [[plain, .long (BoundedInt.wrap 2)], [capital, .long (BoundedInt.wrap 1)]]
    (∀ value ∈ [plain, capital, precise], value.hasType record = true ∧
      Operator.apply (.comparison .eq) plain value = .ok (.boolean true)) ∧
      Value.same plain precise = true ∧ plain.hashWords = precise.hashWords ∧
      Value.same plain capital = false ∧
      groupRows schema .abort [.column "p"] aggregates rows = .ok output ∧
      ∃ keyed, List.Forall₂ (KeyedRow.Reads schema .abort [.column "p"]) rows.zipIdx keyed ∧
        ∀ left ∈ keyed, left.key = [plain] → ∀ right ∈ keyed,
          (right.key = [precise] → KeyedRow.Together keyed left right) ∧
            (right.key = [capital] → ¬ KeyedRow.Together keyed left right) := by
  intro plain precise capital record schema rows aggregates output
  have noDouble : ∀ type ∈ [record], type.hasDouble = false :=
    List.forall_mem_singleton.mpr rfl
  have equal : ∀ value ∈ [plain, capital, precise], value.hasType record = true ∧
      Operator.apply (.comparison .eq) plain value = .ok (.boolean true) := by
    simp only [List.forall_mem_cons]
    exact ⟨⟨rfl, rfl⟩, ⟨rfl, rfl⟩, ⟨rfl, rfl⟩, nofun⟩
  have grouped : groupRows schema .abort [.column "p"] aggregates rows = .ok output := by rfl
  have typed : ∀ (index : Nat) (row : Row) (key : List Value), rows[index]? = some row →
      Expr.evaluateAll { schema, policy := .abort, row, index } [.column "p"] = .ok key →
        List.Forall₂ (fun value type => value.hasType type = true) key [record] := by
    intro index row key atIndex evaluated
    rcases index with _ | _ | _ | _ <;> cases atIndex <;> cases evaluated <;>
      exact .cons rfl .nil
  obtain ⟨values, groups⟩ := groupRows_equal_keys noDouble
  obtain ⟨⟨ofPlain, -⟩, ⟨ofCapital, toCapital⟩, ⟨ofPrecise, toPrecise⟩, -⟩ := by
    simpa only [List.forall_mem_cons] using equal
  obtain ⟨alike, -⟩ := values record List.mem_cons_self plain precise ofPlain ofPrecise toPrecise
  obtain ⟨-, apart, -⟩ := values record List.mem_cons_self plain capital ofPlain ofCapital toCapital
  have renamed : plain.memberNames ≠ capital.memberNames := by
    simp [plain, capital, Value.memberNames, Value.namesOfMembers]
  obtain ⟨keyed, read, -, together⟩ :=
    groups schema .abort [.column "p"] aggregates rows output (List.cons_ne_nil _ _) typed grouped
  refine ⟨equal, (alike rfl).1, (alike rfl).2, apart renamed, grouped, keyed, read, ?_⟩
  intro left inLeft leftKey right inRight
  have spelled := together left inLeft right inRight
  rw [leftKey] at spelled
  constructor
  · intro rightKey
    rw [rightKey] at spelled
    exact (spelled (.cons toPrecise .nil)).mpr rfl
  · intro rightKey both
    rw [rightKey] at spelled
    exact renamed (List.cons.inj ((spelled (.cons toCapital .nil)).mp both)).1

end ScalarSql
