import ScalarSql.Expr.Coercion

/-!
# Operators, casts and fields respect types

What the static rules promise about a type, the operations on values keep.  An operation
on values of the declared types either gives a value of the result type or fails for a
reason that lies in the data: an overflow, a number without a counterpart in the target
type, a text that cannot be read.  It never fails because a value has the wrong type.

**Outcomes.**  `Error.IsDataFault` lists the failures that lie in the data, and `Sound`
says of a computation that its result has a property or that it fails in such a way.

**Operations.**  The statements follow the operations: `Operator.apply_sound` for the
binary operators, `Value.negate_sound` for the sign, `Value.castTo_sound` for casts that
`DataType.castable` allows, and `Value.field?_hasType` for the members of structures.
-/

set_option autoImplicit false

namespace ScalarSql

/-! ## Outcomes -/

/-- The failures that the data of a query can cause: a failing function, a stored decimal
that is out of range, a result out of range, and a cast without a result. -/
def Error.IsDataFault : Error → Prop
  | .functionFailed .. => True
  | .schema (.negativeDecimalScale _) | .schema .decimalOutOfRange => True
  | .evaluation (.numericOverflow _) | .evaluation (.notRepresentable _)
  | .evaluation (.inexactNarrowing ..) | .evaluation (.cannotCast ..) => True
  | _ => False

section Sound

variable {α β : Type} {good : α → Prop} {better : β → Prop}

/-- A computation that ends with a result of the given kind or fails because of the
data. -/
def Sound (good : α → Prop) : Except Error α → Prop
  | .ok result => good result
  | .error error => error.IsDataFault

@[simp] theorem sound_ok {result : α} : Sound good (.ok result) ↔ good result := Iff.rfl

@[simp] theorem sound_error {error : Error} :
    Sound good (.error error) ↔ error.IsDataFault := Iff.rfl

theorem Sound.map {outcome : Except Error α} {f : α → β} (sound : Sound good outcome)
    (keeps : ∀ result, good result → better (f result)) : Sound better (outcome.map f) := by
  cases outcome with
  | ok result => exact keeps result sound
  | error error => exact sound

theorem Sound.mono {good' : α → Prop} {outcome : Except Error α} (sound : Sound good outcome)
    (weaker : ∀ result, good result → good' result) : Sound good' outcome := by
  cases outcome with
  | ok result => exact weaker result sound
  | error error => exact sound

theorem Sound.bind {outcome : Except Error α} {f : α → Except Error β}
    (sound : Sound good outcome) (next : ∀ result, good result → Sound better (f result)) :
    Sound better (outcome >>= f) := by
  cases outcome with
  | ok result => exact next result sound
  | error error => exact sound

end Sound

/-! ## Values of basic types -/

namespace DataType

/-- The types without parts that have values other than `NULL`. -/
def isBasic : DataType → Bool
  | .struct _ | .array _ | .unresolved => false
  | _ => true

end DataType

namespace Value

@[simp] theorem hasType_null (type : DataType) : Value.null.hasType type = true := by
  cases type <;> rfl

theorem eq_null_of_hasType_unresolved {value : Value}
    (typed : value.hasType .unresolved = true) : value = .null := by
  cases value <;> first | rfl | cases typed

theorem isNull_iff {value : Value} : value.isNull = true ↔ value = .null := by
  cases value <;> simp [isNull]

/-- A value that shows a basic type belongs to it. -/
theorem hasType_of_ownType {value : Value} {type : DataType} (basic : type.isBasic = true)
    (own : value.ownType = type) : value.hasType type = true := by
  subst own
  cases value <;> first | rfl | cases basic

/-- The numbers: a value of a numeric type that is not `NULL`. -/
theorem number_cases {value : Value} {type : DataType} (numeric : type.isNumeric = true)
    (typed : value.hasType type = true) (present : value.isNull = false) :
    (type = .int ∧ ∃ number, value = .int number) ∨
      (type = .long ∧ ∃ number, value = .long number) ∨
      (type = .decimal ∧ ∃ number, value = .decimal number) ∨
      (type = .double ∧ ∃ number, value = .double number) := by
  cases type <;> cases numeric <;> cases value <;> simp_all [hasType, isNull]

/-- A truth value or `NULL`. -/
theorem boolean_cases {value : Value} (typed : value.hasType .boolean = true) :
    value = .null ∨ ∃ truth, value = .boolean truth := by
  cases value <;> first | exact .inl rfl | exact .inr ⟨_, rfl⟩ | cases typed

theorem hasType_ofTruth (truth : Option Bool) : (ofTruth truth).hasType .boolean = true := by
  cases truth <;> rfl

end Value

/-! ## Arithmetic -/

namespace Arithmetic

/-- On integers of one width the result is one of that width or `NULL`. -/
theorem integral_sound {bits : Nat} (op : Arithmetic) {wrap : BoundedInt bits → Value}
    {type : DataType} (typed : ∀ number, (wrap number).hasType type = true)
    (left right : BoundedInt bits) :
    Sound (Value.hasType · type) (op.integral wrap left right) := by
  unfold integral
  split
  · exact Value.hasType_null type
  · split
    · exact typed _
    · trivial

/-- With a double on one side the result is a double or `NULL`. -/
theorem floating_sound (op : Arithmetic) {left right : Value}
    (leftNumber : ∃ number, left.toDouble = .ok number)
    (rightNumber : ∃ number, right.toDouble = .ok number) :
    Sound (Value.hasType · .double) (op.floating left right) := by
  obtain ⟨first, leftNumber⟩ := leftNumber
  obtain ⟨second, rightNumber⟩ := rightNumber
  simp only [floating, leftNumber, rightNumber]
  split <;> rfl

/-- With decimals the result is a decimal or `NULL`. -/
theorem exact_sound (op : Arithmetic) {left right : Value}
    (leftNumber : ∃ number, left.toDecimal = .ok number)
    (rightNumber : ∃ number, right.toDecimal = .ok number) :
    Sound (Value.hasType · .decimal) (op.exact left right) := by
  obtain ⟨first, leftNumber⟩ := leftNumber
  obtain ⟨second, rightNumber⟩ := rightNumber
  simp only [exact, leftNumber, rightNumber]
  split
  · rfl
  · split
    · rfl
    · trivial

/-- A result type needs both operands to be numeric or untyped. -/
theorem numeric_of_resultType? {left right type : DataType}
    (result : resultType? left right = some type) :
    (left = .unresolved ∨ left.isNumeric = true) ∧
      (right = .unresolved ∨ right.isNumeric = true) := by
  cases left <;> cases right <;>
    simp_all [resultType?, DataType.isNumeric, DataType.numericRank?]

/-- **Promotion is the same for types and values**: the operation on two numbers gives a
value of the type that the static rule gives for their types. -/
theorem apply_sound (op : Arithmetic) {left right : Value} {leftType rightType type : DataType}
    (result : resultType? leftType rightType = some type)
    (leftTyped : left.hasType leftType = true) (rightTyped : right.hasType rightType = true)
    (leftPresent : left.isNull = false) (rightPresent : right.isNull = false) :
    Sound (Value.hasType · type) (op.apply left right) := by
  obtain ⟨leftNumeric, rightNumeric⟩ := numeric_of_resultType? result
  have leftNumber : leftType.isNumeric = true := by
    rcases leftNumeric with rfl | numeric
    · rw [Value.eq_null_of_hasType_unresolved leftTyped] at leftPresent
      cases leftPresent
    · exact numeric
  have rightNumber : rightType.isNumeric = true := by
    rcases rightNumeric with rfl | numeric
    · rw [Value.eq_null_of_hasType_unresolved rightTyped] at rightPresent
      cases rightPresent
    · exact numeric
  rcases Value.number_cases leftNumber leftTyped leftPresent with
    ⟨rfl, first, rfl⟩ | ⟨rfl, first, rfl⟩ | ⟨rfl, first, rfl⟩ | ⟨rfl, first, rfl⟩ <;>
  rcases Value.number_cases rightNumber rightTyped rightPresent with
    ⟨rfl, second, rfl⟩ | ⟨rfl, second, rfl⟩ | ⟨rfl, second, rfl⟩ | ⟨rfl, second, rfl⟩ <;>
  cases result <;> simp only [apply] <;>
  first
    | exact integral_sound op (fun _ => rfl) _ _
    | exact floating_sound op ⟨_, rfl⟩ ⟨_, rfl⟩
    | exact exact_sound op ⟨_, rfl⟩ ⟨_, rfl⟩

end Arithmetic

/-- **Operators respect their result type.** -/
theorem Operator.apply_sound (op : Operator) {left right : Value}
    {leftType rightType type : DataType} (result : op.resultType leftType rightType = .ok type)
    (leftTyped : left.hasType leftType = true) (rightTyped : right.hasType rightType = true) :
    Sound (Value.hasType · type) (op.apply left right) := by
  cases op with
  | logical link =>
      simp only [resultType] at result
      split at result
      · cases result
        exact Value.hasType_ofTruth _
      · cases result
  | comparison test =>
      simp only [resultType] at result
      split at result
      · cases result
        exact Value.hasType_ofTruth _
      · cases result
  | arithmetic calculation =>
      simp only [resultType] at result
      split at result
      · next found =>
          cases result
          simp only [Operator.apply]
          split
          · exact Value.hasType_null _
          · next present =>
              simp only [Bool.or_eq_true, not_or, Bool.not_eq_true] at present
              exact calculation.apply_sound found leftTyped rightTyped present.1 present.2
      · cases result

/-- The sign of a number changes within its type. -/
theorem Value.negate_sound {value : Value} {type : DataType}
    (numeric : type.isNumeric = true ∨ type = .unresolved) (typed : value.hasType type = true) :
    Sound (Value.hasType · type) value.negate := by
  by_cases present : value.isNull = true
  · rw [isNull_iff.mp present]
    exact hasType_null type
  · have number : type.isNumeric = true := by
      rcases numeric with numeric | rfl
      · exact numeric
      · exact absurd (isNull_iff.mpr (eq_null_of_hasType_unresolved typed)) present
    rcases number_cases number typed (Bool.not_eq_true _ ▸ present) with
      ⟨rfl, digits, rfl⟩ | ⟨rfl, digits, rfl⟩ | ⟨rfl, digits, rfl⟩ | ⟨rfl, digits, rfl⟩
    · simp only [negate]
      split <;> trivial
    · simp only [negate]
      split <;> trivial
    · rfl
    · rfl

/-! ## Casts -/

namespace Value

theorem castResult_sound {value : Value} {target : DataType} {found : Option Value}
    (typed : ∀ result, found = some result → result.hasType target = true) :
    Sound (hasType · target) (castResult value target found) := by
  cases found with
  | none => trivial
  | some result => exact typed result rfl

/-- A decimal only narrows to an integer, and the target says to which type. -/
theorem narrow?_cases {d : Decimal} {target : DataType} {policy : Narrowing} {result : Value}
    (narrowed : d.narrow? target policy = some result) :
    (target = .int ∧ ∃ number, result = .int number) ∨
      (target = .long ∧ ∃ number, result = .long number) := by
  unfold Decimal.narrow? at narrowed
  split at narrowed
  · cases narrowed
  · split at narrowed
    · obtain ⟨number, _, rfl⟩ := Option.map_eq_some_iff.mp narrowed
      exact .inl ⟨rfl, number, rfl⟩
    · obtain ⟨number, _, rfl⟩ := Option.map_eq_some_iff.mp narrowed
      exact .inr ⟨rfl, number, rfl⟩
    · cases narrowed

/-- A decimal narrows to a value of the target type. -/
theorem hasType_of_narrow? {d : Decimal} {target : DataType} {policy : Narrowing}
    {result : Value} (narrowed : d.narrow? target policy = some result) :
    result.hasType target = true := by
  rcases narrow?_cases narrowed with ⟨rfl, _, rfl⟩ | ⟨rfl, _, rfl⟩ <;> rfl

theorem ownType_of_narrow? {d : Decimal} {target : DataType} {policy : Narrowing}
    {result : Value} (narrowed : d.narrow? target policy = some result) :
    result.ownType = target := by
  rcases narrow?_cases narrowed with ⟨rfl, _, rfl⟩ | ⟨rfl, _, rfl⟩ <;> rfl

/-- A text is read as a value of the target type. -/
theorem hasType_of_read? {text : String} {target : DataType} {result : Value}
    (found : read? text target = some result) : result.hasType target = true := by
  cases target with
  | int | long | double | decimal =>
      obtain ⟨_, _, rfl⟩ := Option.map_eq_some_iff.mp found
      rfl
  | boolean =>
      simp only [read?] at found
      split at found
      · cases found
        rfl
      · split at found <;> cases found
        rfl
  | string | struct _ | array _ | unresolved => cases found

theorem hasType_of_map {α : Type} {found : Option α} {wrap : α → Value} {target : DataType}
    (typed : ∀ number, (wrap number).hasType target = true) :
    ∀ result, found.map wrap = some result → result.hasType target = true := by
  intro result mapped
  obtain ⟨number, _, rfl⟩ := Option.map_eq_some_iff.mp mapped
  exact typed number

theorem convertTo_string (text : String) (target : DataType) (checked : Bool) :
    convertTo (.string text) target checked =
      castResult (.string text) target (read? (Text.trim text) target) := by
  rw [convertTo]

/-- A conversion gives a value of the target type or fails because of the value. -/
theorem convertTo_sound (value : Value) (target : DataType) (checked : Bool) :
    Sound (hasType · target) (value.convertTo target checked) := by
  cases value with
  | null | struct _ | array _ => cases target <;> trivial
  | string text =>
      rw [convertTo_string]
      exact castResult_sound fun _ => hasType_of_read?
  | boolean _ =>
      cases target with
      | string =>
          simp only [convertTo]
          rfl
      | _ => trivial
  | int _ =>
      cases target <;>
        simp [convertTo, hasType, castError, Error.IsDataFault, toDouble, toDecimal, Except.map]
  | long number =>
      cases target with
      | int => exact castResult_sound (hasType_of_map fun _ => rfl)
      | _ =>
          simp [convertTo, hasType, castError, Error.IsDataFault, toDouble, toDecimal, Except.map]
  | double number =>
      cases target with
      | int | long => exact castResult_sound (hasType_of_map fun _ => rfl)
      | decimal =>
          simp only [convertTo, toDecimal]
          split <;> simp_all [Except.map, hasType, Error.IsDataFault]
      | _ =>
          simp [convertTo, hasType, castError, Error.IsDataFault, toDouble, Except.map]
  | decimal _ =>
      cases target with
      | int | long =>
          simp only [convertTo]
          split
          · next narrowed => exact hasType_of_narrow? narrowed
          · trivial
      | _ =>
          simp [convertTo, hasType, castError, Error.IsDataFault, toDouble, Except.map]

/-- A cast that can be asked for is from an untyped `NULL`, changes nothing, or goes to a
basic type. -/
theorem castable_cases {source target : DataType} (allowed : source.castable target = true) :
    source = .unresolved ∨ source = target ∨ target.isBasic = true := by
  by_cases basic : target.isBasic = true
  · exact .inr (.inr basic)
  · have notNumeric : target.isNumeric = false := by
      cases target <;> first | rfl | exact absurd rfl basic
    have notWritten : target.hasWrittenForm = false := by
      cases target <;> first | rfl | exact absurd rfl basic
    have notString : target ≠ .string := by
      rintro rfl
      exact basic rfl
    have notConverted : DataType.conversion? source target = none := by
      cases target <;> first | exact absurd rfl basic | cases source <;> rfl
    simp only [DataType.castable, notNumeric, notWritten, notString, Bool.and_false,
      Bool.or_false, Bool.or_eq_true, Bool.and_eq_true, beq_iff_eq, and_false, or_false]
      at allowed
    rcases allowed with missing | converted
    · exact .inl missing
    · refine .inr (.inl ?_)
      simp only [DataType.coercion?, notConverted] at converted
      split at converted
      · cases converted
      · split at converted
        · next equal => exact beq_iff_eq.mp equal
        · cases converted

/-- **Casts respect their target.** -/
theorem castTo_sound {value : Value} {source target : DataType} (checked : Bool)
    (allowed : source.castable target = true) (typed : value.hasType source = true) :
    Sound (hasType · target) (value.castTo target checked) := by
  unfold castTo
  split
  · next unchanged =>
      simp only [Bool.or_eq_true, beq_iff_eq] at unchanged
      rcases castable_cases allowed with rfl | rfl | basic
      · rw [eq_null_of_hasType_unresolved typed]
        exact hasType_null target
      · exact typed
      · rcases unchanged with (missing | rfl) | own
        · rw [isNull_iff.mp missing]
          exact hasType_null target
        · cases basic
        · exact hasType_of_ownType basic own
  · exact convertTo_sound value target checked

/-! ## Fields -/

/-- Names that differ in case only are found alike. -/
theorem sameName_congr {left right : String} (same : Text.sameName left right = true)
    (name : String) : Text.sameName left name = Text.sameName right name := by
  unfold Text.sameName at *
  rw [eq_of_beq same]

/-- The member found under a name has the type of the field found under it. -/
theorem hasType_of_findNamed? {name : String} {members : List (String × Value)}
    {fields : List (String × DataType)} {found : String × DataType}
    (typed : membersHaveType members fields = true)
    (declared : DataType.findNamed? name fields = some found) :
    ((DataType.findNamed? name members).map Prod.snd).any (hasType · found.2) = true := by
  induction fields generalizing members with
  | nil => cases declared
  | cons field fields ih =>
      match members with
      | [] => cases typed
      | (member, value) :: members =>
          simp only [membersHaveType, Bool.and_eq_true] at typed
          obtain ⟨⟨same, first⟩, rest⟩ := typed
          simp only [DataType.findNamed?, List.find?_cons] at declared ⊢
          rw [sameName_congr same name]
          split at declared
          · next here =>
              cases declared
              simpa [here] using first
          · next elsewhere =>
              simpa [elsewhere, DataType.findNamed?] using ih rest declared

/-- **Fields respect their type**: the member of a structure, or `NULL` for a missing
structure, has the type of the field. -/
theorem field?_hasType {value : Value} {fields : List (String × DataType)} {name : String}
    {found : String × DataType} (typed : value.hasType (.struct fields) = true)
    (declared : DataType.findNamed? name fields = some found) :
    ((value.field? name).getD .null).hasType found.2 = true := by
  cases value with
  | struct members =>
      have member := hasType_of_findNamed? typed declared
      simp only [field?]
      cases lookup : (DataType.findNamed? name members).map Prod.snd with
      | none => exact hasType_null _
      | some value => simpa [lookup] using member
  | null => exact hasType_null _
  | _ => cases typed

end Value

end ScalarSql
