import ScalarSql.Proofs.Aggregate.Counting
import ScalarSql.Proofs.Value.Sorting

/-!
# Smallest and largest values

The smallest of some values is found by going through them and keeping the first one, until a
value compares below the one that is kept; the largest is found alike.  `Picks` is what one
value after the other preserves: what is kept is one of the values, and none of them is
better.  This holds of all values of one type, because comparisons compose where they are
defined.

**The order of the rows.**  A value that compares with none of the others is kept if it comes
first and passed over if it does not.  So the result is the same for all orders of the rows,
up to values that compare as equal, exactly if it compares with all other values,
`Accumulator.agrees_iff`.  On the values of a type this is always so if the type has no parts
and is not `DOUBLE`, and for no type with parts but the structure without fields,
`Accumulator.agrees_of_type_iff`.
-/

set_option autoImplicit false

namespace ScalarSql

/-- The comparison on which a value takes the place of the one that is kept. -/
def AggregateFunction.wanted? : AggregateFunction → Option Ordering
  | .min => some .lt
  | .max => some .gt
  | .count | .sum | .avg => none

namespace Value

variable {type : DataType} {wanted : Ordering} {left right first second third : Value}

/-! ## Better values -/

theorem compare?_ne_self (decided : wanted ≠ .eq) (value : Value) :
    compare? value value ≠ some wanted := by
  intro compared
  have swapped := compare?_swap value value
  rw [compared] at swapped
  cases wanted <;> first | exact decided rfl | cases swapped

theorem compare?_trans (ofFirst : first.hasType type = true) (ofSecond : second.hasType type = true)
    (ofThird : third.hasType type = true) (step : compare? first second = some wanted)
    (next : compare? second third = some wanted) : compare? first third = some wanted := by
  rw [compare?_then type ofFirst ofSecond ofThird step next rfl]
  cases wanted <;> rfl

/-- One value, or two that compare as equal. -/
def Agrees (left right : Value) : Prop := left = right ∨ compare? left right = some .eq

theorem Agrees.symm (agrees : left.Agrees right) : right.Agrees left := by
  rcases agrees with rfl | same
  · exact .inl rfl
  · exact .inr (by rw [compare?_swap left right, same]; rfl)

end Value

namespace Accumulator

open Value

variable {type : DataType} {wanted : Ordering} {values : List Value}

/-! ## Keeping the best value -/

/-- The result is one of the values; it is the first one or better than it, and none of them is
better than the result. -/
structure Picks (wanted : Ordering) (first : Value) (rest : List Value) (result : Value) :
    Prop where
  mem : result ∈ first :: rest
  keeps : result = first ∨ compare? result first = some wanted
  best : ∀ value ∈ first :: rest, compare? value result ≠ some wanted

theorem picks_self (decided : wanted ≠ .eq) (value : Value) : Picks wanted value [] value :=
  ⟨List.mem_cons_self, .inl rfl, List.forall_mem_singleton.mpr (compare?_ne_self decided value)⟩

/-- **One more value** takes the place of the one that is kept, or it is no better. -/
theorem Picks.select {first kept value : Value} {seen : List Value}
    (picks : Picks wanted first seen kept) (decided : wanted ≠ .eq)
    (typed : ∀ other ∈ first :: (seen ++ [value]), other.hasType type = true) :
    ∃ next, Accumulator.select wanted (some kept) value = some next ∧
      Picks wanted first (seen ++ [value]) next := by
  rw [← List.cons_append, List.forall_mem_append, List.forall_mem_singleton] at typed
  obtain ⟨seenTyped, valueTyped⟩ := typed
  have keptTyped := seenTyped kept picks.mem
  have firstTyped := seenTyped first List.mem_cons_self
  by_cases replaced : compare? value kept = some wanted
  · refine ⟨value, by rw [Accumulator.select, replaced, beq_self_eq_true, if_pos rfl], ?_, ?_, ?_⟩
    · exact List.mem_cons_of_mem _ (List.mem_append_right _ List.mem_cons_self)
    · rcases picks.keeps with rfl | better
      · exact .inr replaced
      · exact .inr (compare?_trans valueTyped keptTyped firstTyped replaced better)
    · rw [← List.cons_append, List.forall_mem_append, List.forall_mem_singleton]
      -- What is better than the new value is better than the one that was kept.
      refine ⟨fun other member better => picks.best other member ?_,
        compare?_ne_self decided value⟩
      exact compare?_trans (seenTyped other member) valueTyped keptTyped better replaced
  · refine ⟨kept, by rw [Accumulator.select, if_neg (by rwa [beq_iff_eq])], ?_, picks.keeps, ?_⟩
    · rw [← List.cons_append]
      exact List.mem_append_left _ picks.mem
    · rw [← List.cons_append, List.forall_mem_append, List.forall_mem_singleton]
      exact ⟨picks.best, replaced⟩

/-- **Going through the values** picks one of them. -/
theorem Picks.foldl {first kept : Value} {seen : List Value}
    (picks : Picks wanted first seen kept) (decided : wanted ≠ .eq)
    (typed : ∀ other ∈ first :: (seen ++ values), other.hasType type = true) :
    ∃ result, values.foldl (Accumulator.select wanted) (some kept) = some result ∧
      Picks wanted first (seen ++ values) result := by
  induction values generalizing kept seen with
  | nil => exact ⟨kept, rfl, by rwa [List.append_nil]⟩
  | cons value rest ih =>
      rw [List.append_cons] at typed ⊢
      obtain ⟨next, selected, stepped⟩ := picks.select decided fun other member =>
        typed other (List.cons_subset_cons first (List.subset_append_left _ rest) member)
      rw [List.foldl_cons, selected]
      exact ih stepped typed

/-- The best of the values that are not `NULL`, or `NULL` if there are none. -/
def extreme (wanted : Ordering) (values : List Value) : Value :=
  ((present values).foldl (select wanted) none).getD .null

/-- The result is `NULL` because all values are, or it is one of the values and no `NULL`; and
none of them is better. -/
structure IsExtreme (wanted : Ordering) (values : List Value) (result : Value) : Prop where
  mem : result = .null ∧ (∀ value ∈ values, value.isNull = true) ∨
    result.isNull = false ∧ result ∈ values
  best : ∀ value ∈ values, compare? value result ≠ some wanted

theorem mem_present {value : Value} :
    value ∈ present values ↔ value ∈ values ∧ value.isNull = false := by
  rw [present, List.mem_filter, Bool.not_eq_eq_eq_not, Bool.not_true]

theorem picks_extreme (decided : wanted ≠ .eq)
    (typed : ∀ value ∈ values, value.hasType type = true) {first : Value} {rest : List Value}
    (begins : present values = first :: rest) :
    Picks wanted first rest (extreme wanted values) := by
  have presentTyped : ∀ value ∈ first :: rest, value.hasType type = true := by
    intro value member
    rw [← begins, mem_present] at member
    exact typed value member.1
  obtain ⟨result, run, picks⟩ := (picks_self decided first).foldl decided presentTyped
  rw [extreme, begins, List.foldl_cons, select, run]
  exact picks

theorem isExtreme (decided : wanted ≠ .eq)
    (typed : ∀ value ∈ values, value.hasType type = true) :
    IsExtreme wanted values (extreme wanted values) := by
  cases begins : present values with
  | nil =>
      have missing : ∀ value ∈ values, value.isNull = true := by
        intro value member
        by_contra present
        have inPresent := mem_present.mpr ⟨member, Bool.not_eq_true _ ▸ present⟩
        rw [begins] at inPresent
        cases inPresent
      refine ⟨.inl ⟨by rw [extreme, begins]; rfl, missing⟩, fun value member => ?_⟩
      rw [isNull_iff.mp (missing value member)]
      exact nofun
  | cons first rest =>
      have picks := picks_extreme decided typed begins
      have member := picks.mem
      rw [← begins, mem_present] at member
      refine ⟨.inr member.symm, fun value inValues compared => ?_⟩
      refine picks.best value ?_ compared
      rw [← begins, mem_present]
      exact ⟨inValues, (present_of_compare? compared).1⟩

theorem IsExtreme.hasType {result : Value} (isExtreme : IsExtreme wanted values result)
    (typed : ∀ value ∈ values, value.hasType type = true) : result.hasType type = true := by
  rcases isExtreme.mem with ⟨rfl, -⟩ | ⟨-, member⟩
  · exact hasType_null type
  · exact typed result member

/-- A value that is better than the result of other values is none of these. -/
theorem IsExtreme.not_better {result other : Value} (isExtreme : IsExtreme wanted values result)
    (member : other = .null ∨ other ∈ values) : compare? other result ≠ some wanted := by
  rcases member with rfl | member
  · exact nofun
  · exact isExtreme.best other member

/-! ## The order of the values -/

/-- With a value in front, the result is this value or better than it. -/
theorem extreme_cons (decided : wanted ≠ .eq) {value : Value}
    (typed : ∀ other ∈ value :: values, other.hasType type = true)
    (given : value.isNull = false) :
    extreme wanted (value :: values) = value ∨
      compare? (extreme wanted (value :: values)) value = some wanted := by
  have begins : present (value :: values) = value :: present values := by
    rw [present, List.filter_cons_of_pos (by rw [given]; rfl)]
    rfl
  exact (picks_extreme decided typed begins).keeps

/-- Results of the same values in two orders agree if they compare. -/
theorem agrees_of_compares (decided : wanted ≠ .eq) {others : List Value} {result other : Value}
    (isExtreme : IsExtreme wanted values result) (otherIsExtreme : IsExtreme wanted others other)
    (permuted : others.Perm values)
    (compares : other.isNull = true ∨ other = result ∨ (compare? result other).isSome = true) :
    other.Agrees result := by
  rcases compares with missing | equal | compared
  · rcases otherIsExtreme.mem with ⟨null, allMissing⟩ | ⟨present, -⟩
    · rcases isExtreme.mem with ⟨alsoNull, -⟩ | ⟨present, inValues⟩
      · exact .inl (null.trans alsoNull.symm)
      · rw [allMissing _ (permuted.mem_iff.mpr inValues)] at present
        cases present
    · rw [missing] at present
      cases present
  · exact .inl equal
  · -- Neither result is better than the other one.
    have notBetter : compare? other result ≠ some wanted :=
      isExtreme.not_better (otherIsExtreme.mem.imp And.left fun held =>
        permuted.mem_iff.mp held.2)
    have notWorse : compare? result other ≠ some wanted :=
      otherIsExtreme.not_better (isExtreme.mem.imp And.left fun held =>
        permuted.mem_iff.mpr held.2)
    obtain ⟨order, compared⟩ := Option.isSome_iff_exists.mp compared
    rw [compare?_swap result, compared] at notBetter
    rw [compared] at notWorse
    refine Agrees.symm (.inr ?_)
    rw [compared]
    cases order <;> cases wanted <;> first | rfl | contradiction

/-- **When the order does not matter**: the best value agrees in all orders exactly if it compares
with all values but itself. -/
theorem agrees_iff (decided : wanted ≠ .eq)
    (typed : ∀ value ∈ values, value.hasType type = true) :
    (∀ others, others.Perm values → (extreme wanted others).Agrees (extreme wanted values)) ↔
      ∀ value ∈ values, value.isNull = true ∨ value = extreme wanted values ∨
        (compare? (extreme wanted values) value).isSome = true := by
  have best := isExtreme decided typed
  have othersTyped : ∀ {others : List Value}, others.Perm values →
      ∀ other ∈ others, other.hasType type = true :=
    fun permuted other member => typed other (permuted.mem_iff.mp member)
  constructor
  · intro same value member
    cases given : value.isNull with
    | true => exact .inl rfl
    | false =>
        obtain ⟨front, back, rfl⟩ := List.append_of_mem member
        have permuted : (value :: (front ++ back)).Perm (front ++ value :: back) :=
          List.perm_middle.symm
        have agrees := (same _ permuted).symm
        refine .inr ?_
        rcases extreme_cons decided (othersTyped permuted) given with first | better
        · rw [first] at agrees
          exact agrees.imp Eq.symm fun equal => by rw [equal]; rfl
        · rcases agrees with equal | equal
          · exact .inr (by rw [equal, better]; rfl)
          · have firstTyped := (isExtreme decided (othersTyped permuted)).hasType
              (othersTyped permuted)
            have composed := compare?_then type (best.hasType typed) firstTyped
              (typed value member) equal better (by cases wanted <;> rfl)
            exact .inr (by rw [composed]; rfl)
  · intro compares others permuted
    have otherBest := isExtreme decided (othersTyped permuted)
    refine agrees_of_compares decided best otherBest permuted ?_
    rcases otherBest.mem with ⟨null, -⟩ | ⟨-, member⟩
    · exact .inl (isNull_iff.mpr null)
    · exact compares _ (permuted.mem_iff.mp member)

/-! ## Types whose values have a best one in any order -/

/-- Two different values that do not compare have two results. -/
theorem not_agrees (decided : wanted ≠ .eq) {left right : Value}
    (ofLeft : left.hasType type = true) (ofRight : right.hasType type = true)
    (leftPresent : left.isNull = false) (rightPresent : right.isNull = false)
    (apart : left ≠ right) (undefined : compare? left right = none) :
    ¬ ∀ others, others.Perm [left, right] →
      (extreme wanted others).Agrees (extreme wanted [left, right]) := by
  intro same
  have typed : ∀ value ∈ [left, right], value.hasType type = true :=
    List.forall_mem_cons.mpr ⟨ofLeft, List.forall_mem_singleton.mpr ofRight⟩
  have compares := (agrees_iff decided typed).mp same
  rcases (isExtreme decided typed).mem with ⟨-, missing⟩ | ⟨-, member⟩
  · rw [missing left List.mem_cons_self] at leftPresent
    cases leftPresent
  · rcases List.mem_pair.mp member with isLeft | isRight
    · rw [isLeft] at compares
      rcases compares right (List.mem_cons_of_mem _ List.mem_cons_self) with
        missing | equal | compared
      · rw [missing] at rightPresent
        cases rightPresent
      · exact apart equal.symm
      · rw [undefined] at compared
        cases compared
    · rw [isRight] at compares
      rcases compares left List.mem_cons_self with missing | equal | compared
      · rw [missing] at leftPresent
        cases leftPresent
      · exact apart equal
      · rw [compare?_swap left, undefined] at compared
        cases compared

theorem exists_present {type : DataType} (known : type ≠ .unresolved) :
    ∃ value : Value, value.hasType type = true ∧ value.isNull = false := by
  by_cases basic : type.isBasic = true
  · obtain ⟨value, -, typed, -, same, -⟩ := exists_of_isBasic basic
    exact ⟨value, typed, (present_of_compare? same).1⟩
  · cases type with
    | struct fields =>
        exact ⟨.struct (nullMembers fields), membersHaveType_nullMembers fields, rfl⟩
    | array _ => exact ⟨.array [], rfl, rfl⟩
    | unresolved => exact absurd rfl known
    | _ => exact absurd rfl basic

/-- A type that is not among those named has two different values that do not compare. -/
theorem exists_apart {type : DataType} (resolved : type.hasUnresolved = false)
    (other : ¬ ((type.isBasic = true ∧ type ≠ .double) ∨ type = .struct [])) :
    ∃ left right : Value, left.hasType type = true ∧ right.hasType type = true ∧
      left.isNull = false ∧ right.isNull = false ∧ left ≠ right ∧ compare? left right = none := by
  cases type with
  | double =>
      exact ⟨.double .nan, .double (.infinite false), rfl, rfl, rfl, rfl, nofun, rfl⟩
  | array element => exact ⟨.array [], .array [.null], rfl, rfl, rfl, rfl, nofun, rfl⟩
  | struct fields =>
      cases fields with
      | nil => exact absurd (.inr rfl) other
      | cons field fields =>
          obtain ⟨name, type⟩ := field
          have known : type ≠ .unresolved := by
            rintro rfl
            cases resolved
          obtain ⟨value, typed, present⟩ := exists_present known
          have membersTyped : membersHaveType ((name, value) :: nullMembers fields)
              ((name, type) :: fields) = true := by
            simp only [membersHaveType, Text.sameName_refl, typed, membersHaveType_nullMembers,
              Bool.and_self]
          refine ⟨.struct ((name, value) :: nullMembers fields),
            .struct (nullMembers ((name, type) :: fields)), membersTyped,
            membersHaveType_nullMembers _, rfl, rfl, ?_,
            compareMembers?_nullMembers membersTyped (List.cons_ne_nil _ _)⟩
          intro equal
          injection equal with members
          injection members with member
          injection member with _ missing
          rw [missing] at present
          cases present
  | unresolved => cases resolved
  | _ => exact absurd (.inl ⟨rfl, nofun⟩) other

/-- **The types on whose values the order never matters.** -/
theorem agrees_of_type_iff (decided : wanted ≠ .eq) (resolved : type.hasUnresolved = false) :
    (∀ values others : List Value, (∀ value ∈ values, value.hasType type = true) →
      others.Perm values → (extreme wanted others).Agrees (extreme wanted values)) ↔
      (type.isBasic = true ∧ type ≠ .double) ∨ type = .struct [] := by
  constructor
  · intro same
    by_contra other
    obtain ⟨left, right, ofLeft, ofRight, leftPresent, rightPresent, apart, undefined⟩ :=
      exists_apart resolved other
    refine not_agrees decided ofLeft ofRight leftPresent rightPresent apart undefined
      fun others permuted => same [left, right] others ?_ permuted
    exact List.forall_mem_cons.mpr ⟨ofLeft, List.forall_mem_singleton.mpr ofRight⟩
  · intro allowed values others typed permuted
    refine (agrees_iff decided typed).mpr (fun value member => ?_) others permuted
    have best := isExtreme decided typed
    cases missing : value.isNull with
    | true => exact .inl rfl
    | false =>
        have bestPresent : (extreme wanted values).isNull = false := by
          rcases best.mem with ⟨-, allMissing⟩ | ⟨present, -⟩
          · rw [allMissing value member] at missing
            cases missing
          · exact present
        rcases allowed with ⟨basic, notDouble⟩ | rfl
        · obtain ⟨kind, floats, isKind⟩ := exists_kind_of_hasType basic
          exact .inr (.inr (compare?_isSome_of_kind
            (isKind _ (best.hasType typed) bestPresent)
            (isKind value (typed value member) missing) (mt floats notDouble)))
        · have empty : ∀ {other : Value}, other.hasType (.struct []) = true →
              other.isNull = false → other = .struct [] := by
            intro other ofOther present
            obtain ⟨members, rfl, noMembers⟩ := struct_of_hasType ofOther present
            cases members with
            | nil => rfl
            | cons _ _ => cases noMembers
          refine .inr (.inl ?_)
          rw [empty (typed value member) missing, empty (best.hasType typed) bestPresent]

/-! ## Accumulators -/

/-- The result of an aggregate function over some values. -/
def resultOf (function : AggregateFunction) (sumType : DataType) (values : List Value) :
    Except Error Value :=
  values.foldlM (fun state value => state.update value sumType) (start function) >>= finish

/-- **The result of `MIN` and `MAX`** is the best value. -/
theorem resultOf_eq {function : AggregateFunction} (selects : function.wanted? = some wanted)
    (sumType : DataType) (values : List Value) :
    resultOf function sumType values = .ok (extreme wanted values) := by
  have kept : ∀ keeping : Option Value → Accumulator, start function = keeping none →
      (∀ current value, value.isNull = false →
        (keeping current).step value sumType = ⟨keeping (select wanted current value), none⟩) →
      (∀ current, (keeping current).finish = .ok (current.getD .null)) →
      resultOf function sumType values = .ok (extreme wanted values) := by
    intro keeping starts steps finishes
    rw [resultOf, starts, foldlM_update steps none values]
    exact finishes _
  cases function with
  | min =>
      cases selects
      exact kept .min rfl (fun _ _ present => by rw [step, present]; rfl) fun _ => rfl
  | max =>
      cases selects
      exact kept .max rfl (fun _ _ present => by rw [step, present]; rfl) fun _ => rfl
  | count | sum | avg => cases selects

/-- **Smallest and largest values.**  On values of one type `MIN` and `MAX` have a result, which is
one of the values, or `NULL` if all of them are, and no value is better.  The results in all
orders agree exactly if the result compares with all values but itself.  So the order never
matters for a type that has no parts and is not `DOUBLE`, nor for the structure without
fields, and it matters for every other type. -/
theorem extremes {function : AggregateFunction} (selects : function.wanted? = some wanted)
    (type sumType : DataType) :
    (∀ values : List Value, (∀ value ∈ values, value.hasType type = true) →
      ∃ result, resultOf function sumType values = .ok result ∧
        IsExtreme wanted values result ∧
        ((∀ others, others.Perm values →
          ∃ other, resultOf function sumType others = .ok other ∧ other.Agrees result) ↔
          ∀ value ∈ values, value.isNull = true ∨ value = result ∨
            (compare? result value).isSome = true)) ∧
    (type.hasUnresolved = false →
      ((∀ values others : List Value, (∀ value ∈ values, value.hasType type = true) →
        others.Perm values → ∃ result other, resultOf function sumType values = .ok result ∧
          resultOf function sumType others = .ok other ∧ other.Agrees result) ↔
        (type.isBasic = true ∧ type ≠ .double) ∨ type = .struct [])) := by
  have decided : wanted ≠ .eq := by
    cases function <;> cases selects <;> decide
  refine ⟨fun values typed => ?_, fun resolved => ?_⟩
  · refine ⟨_, resultOf_eq selects sumType values, isExtreme decided typed, ?_⟩
    rw [← agrees_iff decided typed]
    refine forall₂_congr fun others _ => ?_
    simp only [resultOf_eq selects, Except.ok.injEq, exists_eq_left']
  · rw [← agrees_of_type_iff decided resolved]
    refine forall_congr' fun values => forall₃_congr fun others _ _ => ?_
    simp only [resultOf_eq selects, Except.ok.injEq, exists_and_left, exists_eq_left']

/-- The smallest double depends on where the value that is not a number comes, and the largest
structure on where one with a missing member comes.  The smallest text is the same in any
order. -/
theorem extremes_of_nan :
    (let large : Value := .double (.infinite false)
     resultOf .min .double [.double .nan, large] = .ok (.double .nan) ∧
       resultOf .min .double [large, .double .nan] = .ok large ∧
       ¬ (Value.double .nan).Agrees large) ∧
    (let point : DataType := .struct [("x", .int)]
     AggregateFunction.max.outputType? point = some point ∧
       ¬ ∀ values others : List Value, (∀ value ∈ values, value.hasType point = true) →
         others.Perm values → ∃ result other, resultOf .max point values = .ok result ∧
           resultOf .max point others = .ok other ∧ other.Agrees result) ∧
    (∃ result, resultOf .min .string [.string "b", .null, .string "a"] = .ok result ∧
      IsExtreme .lt [.string "b", .null, .string "a"] result) ∧
    ∀ values others : List Value, (∀ value ∈ values, value.hasType .string = true) →
      others.Perm values → ∃ result other, resultOf .min .string values = .ok result ∧
        resultOf .min .string others = .ok other ∧ other.Agrees result := by
  have selectsMax : AggregateFunction.max.wanted? = some .gt := rfl
  have selectsMin : AggregateFunction.min.wanted? = some .lt := rfl
  obtain ⟨texts, allTexts⟩ := extremes selectsMin .string .string
  refine ⟨⟨rfl, rfl, ?_⟩, ⟨rfl, ?_⟩, ?_, (allTexts rfl).mpr (.inl ⟨rfl, nofun⟩)⟩
  · rintro (equal | same)
    · cases equal
    · cases same
  · rw [(extremes selectsMax (.struct [("x", .int)]) (.struct [("x", .int)])).2 rfl]
    rintro (⟨basic, -⟩ | equal)
    · cases basic
    · cases equal
  · obtain ⟨result, computed, best, -⟩ := texts [.string "b", .null, .string "a"] (by decide)
    exact ⟨result, computed, best⟩

end Accumulator

end ScalarSql
