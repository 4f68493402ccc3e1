import ScalarSql.Proofs.Value.Exchange

/-!
# The order of values

A comparison is a step up, a step down or none, and steps in one direction compose.  This is a
law of every total order, `compare_then`, and `Value.compare?_then` says it of the values of
one type, where a comparison may be undefined: if two steps one after the other are defined,
then so is the step from the first value to the third, in the same direction.

**Kinds.**  Values without parts compare within four kinds.  Integers and decimals are one kind,
because they compare as the numbers that they are, and doubles are another, because there is one
among them that compares with none.
-/

set_option autoImplicit false

namespace ScalarSql

/-! ## Steps in one direction -/

/-- Two steps that do not lead in opposite directions. -/
def Onward (here there : Ordering) : Prop := here.then there = there.then here

/-- Steps that avoid one direction do not lead in opposite directions. -/
theorem onward_of_ne {avoided here there : Ordering} (decided : avoided ≠ .eq)
    (notHere : here ≠ avoided) (notThere : there ≠ avoided) : Onward here there := by
  cases avoided <;> cases here <;> cases there <;> first | rfl | contradiction

theorem not_onward_lt_gt : ¬ Onward .lt .gt := nofun

theorem not_onward_gt_lt : ¬ Onward .gt .lt := nofun

theorem then_ne {avoided here there : Ordering} (notHere : here ≠ avoided)
    (notThere : there ≠ avoided) : here.then there ≠ avoided := by
  cases here <;> first | exact notThere | exact notHere

/-- **Lexicographic orders compose** if their parts do, and the second part only matters between
elements that the first one does not tell apart. -/
theorem then_then {here there whole nextHere nextThere nextWhole : Ordering}
    (first : Onward here there → whole = here.then there)
    (second : here = .eq → there = .eq → Onward nextHere nextThere →
      nextWhole = nextHere.then nextThere)
    (onward : Onward (here.then nextHere) (there.then nextThere)) :
    whole.then nextWhole = (here.then nextHere).then (there.then nextThere) := by
  cases here with
  | eq =>
      cases there with
      | eq =>
          rw [first rfl]
          exact second rfl rfl onward
      | lt | gt =>
          rw [first rfl]
          exact onward.symm
  | lt =>
      cases there with
      | eq | lt => rw [first rfl]; rfl
      | gt => exact absurd onward not_onward_lt_gt
  | gt =>
      cases there with
      | eq | gt => rw [first rfl]; rfl
      | lt => exact absurd onward not_onward_gt_lt

/-- **Total orders compose.** -/
theorem compare_then {α : Type} {cmp : α → α → Ordering} [Std.TransCmp cmp]
    {first second third : α} (onward : Onward (cmp first second) (cmp second third)) :
    cmp first third = (cmp first second).then (cmp second third) := by
  cases here : cmp first second with
  | eq => exact Std.TransCmp.congr_left here
  | lt =>
      cases there : cmp second third with
      | lt => exact Std.TransCmp.lt_trans here there
      | eq => exact Std.TransCmp.lt_of_lt_of_eq here there
      | gt =>
          rw [here, there] at onward
          exact absurd onward not_onward_lt_gt
  | gt =>
      cases there : cmp second third with
      | gt => exact Std.TransCmp.gt_trans here there
      | eq => exact Std.TransCmp.gt_of_gt_of_eq here there
      | lt =>
          rw [here, there] at onward
          exact absurd onward not_onward_gt_lt

variable {here there : Ordering}

/-! ## Numbers -/

theorem Double.compare?_then {first second third : Double}
    (step : compare? first second = some here) (next : compare? second third = some there)
    (onward : Onward here there) : compare? first third = some (here.then there) := by
  rcases first with _ | (_ | _) | _ <;> rcases second with _ | (_ | _) | _ <;> cases step <;>
    rcases third with _ | (_ | _) | _ <;> cases next <;>
    first
    | rfl
    | exact congrArg some (compare_then onward)
    | exact congrArg some onward.symm
    | cases onward

theorem Decimal.units_ofLong (value : BoundedInt 64) :
    (ofLong value).units = value.val * tenPow 28 := by
  have magnitude : (ofLong value).signedCoefficient = value.val := by
    simp only [signedCoefficient, ofLong, decide_eq_true_eq]
    omega
  rw [units, magnitude]
  rfl

theorem compare_mul_right {left right factor : Int} (positive : 0 < factor) :
    compare (left * factor) (right * factor) = compare left right := by
  simp only [compare, compareOfLessAndEq, Int.mul_lt_mul_right positive,
    Int.mul_eq_mul_right_iff (Int.ne_of_gt positive)]

/-- The number in steps of `10 ^ -28`, unless it is a double. -/
def Number.units? : Number → Option Int
  | .whole value => some (Decimal.ofLong value).units
  | .decimal value => some value.units
  | .float _ => none

/-- Integers and decimals compare as the numbers that they are. -/
theorem Number.compare?_of_units {left right : Number} {leftUnits rightUnits : Int}
    (isLeft : left.units? = some leftUnits) (isRight : right.units? = some rightUnits) :
    left.compare? right = some (Ord.compare leftUnits rightUnits) := by
  cases left with
  | float _ => cases isLeft
  | decimal left => cases right <;> cases isLeft <;> cases isRight <;> rfl
  | whole left =>
      cases right with
      | float _ => cases isRight
      | decimal right =>
          cases isLeft
          cases isRight
          rfl
      | whole right =>
          cases isLeft
          cases isRight
          have positive : (0 : Int) < tenPow 28 := Int.natCast_pos.mpr (tenPow_pos 28)
          rw [compare?, Decimal.units_ofLong, Decimal.units_ofLong, compare_mul_right positive]

/-! ## Kinds of values -/

/-- The kinds of values without parts that compare with each other. -/
inductive ValueKind where
  | exact
  | float
  | text
  | truth
  deriving Inhabited

namespace Value

/-- The kind of a value without parts. -/
def kind? : Value → Option ValueKind
  | .int _ | .long _ | .decimal _ => some .exact
  | .double _ => some .float
  | .string _ => some .text
  | .boolean _ => some .truth
  | .null | .struct _ | .array _ => none

theorem exists_units_of_kind {value : Value} (isExact : value.kind? = some .exact) :
    ∃ number units, value.number? = some number ∧ number.units? = some units := by
  cases value <;> cases isExact <;> exact ⟨_, _, rfl, rfl⟩

/-- Exact numbers compare by one total order. -/
theorem compare?_of_exact {left right : Value} {leftNumber rightNumber : Number}
    {leftUnits rightUnits : Int} (isLeft : left.number? = some leftNumber)
    (isRight : right.number? = some rightNumber) (ofLeft : leftNumber.units? = some leftUnits)
    (ofRight : rightNumber.units? = some rightUnits) :
    compare? left right = some (Ord.compare leftUnits rightUnits) := by
  rw [compare?_of_numbers isLeft isRight, Number.compare?_of_units ofLeft ofRight]

variable {first second third : Value} {kind : ValueKind}

/-- **Values of one kind compare**, unless they are doubles. -/
theorem compare?_isSome_of_kind (ofFirst : first.kind? = some kind)
    (ofSecond : second.kind? = some kind) (notFloat : kind ≠ .float) :
    (compare? first second).isSome = true := by
  cases kind with
  | float => exact absurd rfl notFloat
  | exact =>
      obtain ⟨_, _, isFirst, firstUnits⟩ := exists_units_of_kind ofFirst
      obtain ⟨_, _, isSecond, secondUnits⟩ := exists_units_of_kind ofSecond
      rw [compare?_of_exact isFirst isSecond firstUnits secondUnits]
      rfl
  | text | truth =>
      cases first <;> cases ofFirst
      cases second <;> cases ofSecond
      rfl

/-- **Comparisons of one kind compose.** -/
theorem compare?_then_of_kind (ofFirst : first.kind? = some kind)
    (ofSecond : second.kind? = some kind) (ofThird : third.kind? = some kind)
    (step : compare? first second = some here) (next : compare? second third = some there)
    (onward : Onward here there) : compare? first third = some (here.then there) := by
  cases kind with
  | float =>
      cases first <;> cases ofFirst
      cases second <;> cases ofSecond
      cases third <;> cases ofThird
      exact Double.compare?_then step next onward
  | exact =>
      obtain ⟨_, _, isFirst, firstUnits⟩ := exists_units_of_kind ofFirst
      obtain ⟨_, _, isSecond, secondUnits⟩ := exists_units_of_kind ofSecond
      obtain ⟨_, _, isThird, thirdUnits⟩ := exists_units_of_kind ofThird
      rw [compare?_of_exact isFirst isSecond firstUnits secondUnits] at step
      rw [compare?_of_exact isSecond isThird secondUnits thirdUnits] at next
      rw [compare?_of_exact isFirst isThird firstUnits thirdUnits]
      cases step
      cases next
      exact congrArg some (compare_then onward)
  | text | truth =>
      cases first <;> cases ofFirst
      cases second <;> cases ofSecond
      cases third <;> cases ofThird
      cases step
      cases next
      exact congrArg some (compare_then onward)

/-- Values of one kind other than doubles leave no gap to fill. -/
theorem getD_compare?_then_of_kind (ofFirst : first.kind? = some kind)
    (ofSecond : second.kind? = some kind) (ofThird : third.kind? = some kind)
    (notFloat : kind ≠ .float)
    (onward : Onward ((compare? first second).getD .eq) ((compare? second third).getD .eq)) :
    (compare? first third).getD .eq
      = ((compare? first second).getD .eq).then ((compare? second third).getD .eq) := by
  obtain ⟨here, step⟩ :=
    Option.isSome_iff_exists.mp (compare?_isSome_of_kind ofFirst ofSecond notFloat)
  obtain ⟨there, next⟩ :=
    Option.isSome_iff_exists.mp (compare?_isSome_of_kind ofSecond ofThird notFloat)
  rw [step, next] at onward
  rw [step, next, compare?_then_of_kind ofFirst ofSecond ofThird step next onward]
  rfl

/-- The values of a type without parts are of one kind. -/
theorem exists_kind_of_hasType {type : DataType} (basic : type.isBasic = true) :
    ∃ kind : ValueKind, (kind = .float → type = .double) ∧
      ∀ value : Value, value.hasType type = true → value.isNull = false →
        value.kind? = some kind := by
  cases type with
  | struct _ | array _ | unresolved => cases basic
  | int | long | decimal =>
      refine ⟨.exact, by rintro ⟨⟩, fun value typed present => ?_⟩
      cases value <;> simp_all [hasType, isNull, kind?]
  | double =>
      refine ⟨.float, fun _ => rfl, fun value typed present => ?_⟩
      cases value <;> simp_all [hasType, isNull, kind?]
  | string =>
      refine ⟨.text, by rintro ⟨⟩, fun value typed present => ?_⟩
      cases value <;> simp_all [hasType, isNull, kind?]
  | boolean =>
      refine ⟨.truth, by rintro ⟨⟩, fun value typed present => ?_⟩
      cases value <;> simp_all [hasType, isNull, kind?]

/-! ## Values of one type -/

theorem struct_of_hasType {value : Value} {fields : List (String × DataType)}
    (typed : value.hasType (.struct fields) = true) (present : value.isNull = false) :
    ∃ members, value = .struct members ∧ membersHaveType members fields = true := by
  cases value <;> simp_all [hasType, isNull]

theorem array_of_hasType {value : Value} {element : DataType}
    (typed : value.hasType (.array element) = true) (present : value.isNull = false) :
    ∃ items, value = .array items ∧ itemsHaveType items element = true := by
  cases value <;> simp_all [hasType, isNull]

/-- Only values other than `NULL` compare. -/
theorem present_of_compare? {left right : Value} {order : Ordering}
    (compared : compare? left right = some order) :
    left.isNull = false ∧ right.isNull = false := by
  cases left <;> cases right <;> first | exact ⟨rfl, rfl⟩ | cases compared

theorem compareMembers?_cons {leftName rightName : String} {left right : Value}
    {lefts rights : List (String × Value)} :
    compareMembers? ((leftName, left) :: lefts) ((rightName, right) :: rights)
      = (compare? left right).bind fun order => match order with
        | .eq => compareMembers? lefts rights
        | decided => some decided := by
  rw [compareMembers?]
  cases compare? left right with
  | none => rfl
  | some order => cases order <;> rfl

mutual

/-- **Comparisons of one type compose**: two steps in one direction make one step in this
direction. -/
theorem compare?_then (type : DataType) {first second third : Value} {here there : Ordering}
    (ofFirst : first.hasType type = true) (ofSecond : second.hasType type = true)
    (ofThird : third.hasType type = true) (step : compare? first second = some here)
    (next : compare? second third = some there) (onward : Onward here there) :
    compare? first third = some (here.then there) := by
  obtain ⟨firstPresent, secondPresent⟩ := present_of_compare? step
  obtain ⟨-, thirdPresent⟩ := present_of_compare? next
  by_cases basic : type.isBasic = true
  · obtain ⟨kind, -, isKind⟩ := exists_kind_of_hasType basic
    exact compare?_then_of_kind (isKind _ ofFirst firstPresent) (isKind _ ofSecond secondPresent)
      (isKind _ ofThird thirdPresent) step next onward
  · cases type with
    | struct fields =>
        obtain ⟨_, rfl, ofFirsts⟩ := struct_of_hasType ofFirst firstPresent
        obtain ⟨_, rfl, ofSeconds⟩ := struct_of_hasType ofSecond secondPresent
        obtain ⟨_, rfl, ofThirds⟩ := struct_of_hasType ofThird thirdPresent
        exact compareMembers?_then fields ofFirsts ofSeconds ofThirds step next onward
    | array _ =>
        obtain ⟨_, rfl, -⟩ := array_of_hasType ofFirst firstPresent
        obtain ⟨_, rfl, -⟩ := array_of_hasType ofSecond secondPresent
        cases step
    | unresolved =>
        rw [eq_null_of_hasType_unresolved ofFirst] at firstPresent
        cases firstPresent
    | _ => exact absurd rfl basic

theorem compareMembers?_then : ∀ (fields : List (String × DataType))
    {firsts seconds thirds : List (String × Value)} {here there : Ordering},
    membersHaveType firsts fields = true → membersHaveType seconds fields = true →
    membersHaveType thirds fields = true → compareMembers? firsts seconds = some here →
    compareMembers? seconds thirds = some there → Onward here there →
    compareMembers? firsts thirds = some (here.then there)
  | [], [], [], [], _, _, _, _, _, step, next, _ => by
      cases step
      cases next
      rfl
  | (_, type) :: fields, (_, first) :: firsts, (_, second) :: seconds, (_, third) :: thirds,
      here, there, ofFirsts, ofSeconds, ofThirds, step, next, onward => by
      simp only [membersHaveType, Bool.and_eq_true] at ofFirsts ofSeconds ofThirds
      rw [compareMembers?_cons, Option.bind_eq_some_iff] at step next
      obtain ⟨head, headStep, tail⟩ := step
      obtain ⟨nextHead, nextHeadStep, nextTail⟩ := next
      have headThen := compare?_then type ofFirsts.1.2 ofSeconds.1.2 ofThirds.1.2 headStep
        nextHeadStep
      rw [compareMembers?_cons]
      cases head with
      | eq =>
          cases nextHead with
          | eq =>
              rw [headThen rfl]
              exact compareMembers?_then fields ofFirsts.2 ofSeconds.2 ofThirds.2 tail nextTail
                onward
          | lt | gt =>
              rw [headThen rfl]
              cases nextTail
              exact congrArg some onward.symm
      | lt =>
          cases tail
          cases nextHead with
          | eq | lt => rw [headThen rfl]; rfl
          | gt =>
              cases nextTail
              exact absurd onward not_onward_lt_gt
      | gt =>
          cases tail
          cases nextHead with
          | eq | gt => rw [headThen rfl]; rfl
          | lt =>
              cases nextTail
              exact absurd onward not_onward_gt_lt

end

end Value

end ScalarSql
