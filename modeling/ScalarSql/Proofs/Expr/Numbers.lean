import Mathlib.Data.List.TakeWhile
import Mathlib.Data.Nat.Digits.Defs
import ScalarSql.Expr.OfTerm
import ScalarSql.Proofs.Computation
import ScalarSql.Proofs.Value.Integers

/-!
# Numbers in queries

Digits in a query become a literal with exactly the number that they write, however many they are,
as long as a decimal has room for it.  The type of the literal is the smallest one that has room
for the number.

**The sign.**  A minus sign in front of the digits is no part of them, so the digits have their
type before the sign is applied, and the sign does not change it, `negatedLiteral?_of_isWhole`.
Types of integers reach one further below zero than above, which makes the type of the least
integer of a type larger than it has to be.  `Expr.ofTerm_numeral` says that this happens to the
least `INT` and to the least `BIGINT` and to no other number.
-/

set_option autoImplicit false

namespace ScalarSql

open BoundedInt (InRange)

/-! ## Texts of digits -/

/-- The number that a text of digits writes, in which each digit counts ten times the one after
it. -/
def magnitude (text : String) : ℕ :=
  Nat.ofDigits 10 (text.toList.map fun c => c.toNat - '0'.toNat).reverse

/-- The term for digits, with a minus sign in front or without. -/
def Syntax.Term.numeral (negative : Bool) (text : String) (long : Bool) : Syntax.Term :=
  let digits : Syntax.Term := .literal (.number text long)
  if negative then .minus digits else digits

/-- The number that is written by the digits of a number with further digits after them. -/
def appendDigits (number : ℕ) (digits : List Char) : ℕ :=
  digits.foldl (fun value c => value * 10 + (c.toNat - '0'.toNat)) number

theorem appendDigits_cons (number : ℕ) (c : Char) (rest : List Char) :
    appendDigits number (c :: rest) = appendDigits (number * 10 + (c.toNat - '0'.toNat)) rest := by
  simp only [appendDigits, List.foldl_cons]

theorem le_appendDigits (number : ℕ) (digits : List Char) :
    number ≤ appendDigits number digits := by
  induction digits generalizing number with
  | nil => exact le_rfl
  | cons c rest ih =>
      have shifted : number ≤ number * 10 + (c.toNat - '0'.toNat) := by omega
      exact shifted.trans (ih _)

theorem appendDigits_zero (text : String) : appendDigits 0 text.toList = magnitude text := by
  rw [appendDigits, magnitude, Nat.ofDigits_eq_foldr, List.foldr_reverse, List.foldl_map]
  refine congrArg (fun step => List.foldl step 0 text.toList) ?_
  funext value c
  rw [Nat.cast_id, Nat.add_comm, Nat.mul_comm]

theorem Decimal.ofParts?_of_full {negative : Bool} {coefficient scale : ℕ}
    (full : twoPow 96 ≤ coefficient) : Decimal.ofParts? negative coefficient scale = none :=
  dif_neg fun parts => Nat.not_lt.mpr full parts.1

theorem isDigit_iff {c : Char} : isDigit c = true ↔ '0' ≤ c ∧ c ≤ '9' := decide_eq_true_iff

theorem digitValue?_of_isDigit {c : Char} (digit : isDigit c = true) :
    digitValue? c = some (c.toNat - '0'.toNat) := if_pos (isDigit_iff.mp digit)

/-- A digit is no sign. -/
theorem splitSign_of_isDigit {c : Char} {rest : List Char} (digit : isDigit c = true) :
    splitSign (c :: rest) = (false, c :: rest) := by
  have noMinus : c ≠ '-' := by
    rintro rfl
    cases digit
  have noPlus : c ≠ '+' := by
    rintro rfl
    cases digit
  unfold splitSign
  split
  · next same => exact absurd (List.cons.inj same).1 noMinus
  · next same => exact absurd (List.cons.inj same).1 noPlus
  · rfl

section Digits

variable {digits : List Char} (nonempty : digits ≠ []) (all : ∀ c ∈ digits, isDigit c = true)

include all

theorem splitSign_of_digits : splitSign digits = (false, digits) := by
  cases digits with
  | nil => rfl
  | cons c rest => exact splitSign_of_isDigit (all c List.mem_cons_self)

include nonempty in
theorem readDigits?_of_digits : readDigits? digits = some (appendDigits 0 digits) := by
  have given : (digits.isEmpty || !digits.all isDigit) = false := by
    rw [List.isEmpty_eq_false_iff.mpr nonempty, List.all_eq_true.mpr all]
    rfl
  rw [readDigits?, given]
  rfl

include nonempty in
theorem readInt?_of_digits : readInt? digits = some (appendDigits 0 digits : ℤ) := by
  simp only [readInt?, splitSign_of_digits all, readDigits?_of_digits nonempty all]
  rfl

/-- **The digits of a decimal** are appended to those that have been read. -/
theorem Decimal.Scan.run?_of_digits {negative started : Bool} {coefficient : ℕ}
    (room : coefficient < twoPow 96) (any : started = true ∨ digits ≠ []) :
    Decimal.Scan.run? { negative, coefficient, started } digits
      = Decimal.ofParts? negative (appendDigits coefficient digits) 0 := by
  induction digits generalizing coefficient started with
  | nil =>
      have started : started = true := any.resolve_right fun nonempty => nonempty rfl
      simp only [Decimal.Scan.run?, Decimal.Scan.finish?, started, if_true]
      rfl
  | cons c rest ih =>
      obtain ⟨digit, others⟩ := List.forall_mem_cons.mp all
      simp only [Decimal.Scan.run?, Bool.false_and, Bool.false_eq_true, if_false,
        digitValue?_of_isDigit digit, appendDigits_cons]
      split
      · next room => exact ih others room (.inl rfl)
      · next full =>
          have later := le_appendDigits (coefficient * 10 + (c.toNat - '0'.toNat)) rest
          exact (Decimal.ofParts?_of_full (by omega)).symm

end Digits

/-! ## Integers of either sign -/

namespace BoundedInt

variable {bits number : ℕ}

theorem inRange_natCast : InRange bits number ↔ number < twoPow (bits - 1) := by
  have positive := twoPow_pos (bits - 1)
  unfold InRange
  omega

theorem inRange_neg_natCast : InRange bits (-number : ℤ) ↔ number ≤ twoPow (bits - 1) := by
  have positive := twoPow_pos (bits - 1)
  unfold InRange
  omega

/-- The types of integers reach at least as far below zero as above. -/
theorem neg_inRange {held : BoundedInt bits} (nonneg : 0 ≤ held.val) :
    InRange bits (-held.val) := by
  have upper := held.upper
  unfold InRange
  omega

end BoundedInt

namespace Decimal

variable {d : Decimal}

/-- A decimal without fraction digits is its coefficient with the sign. -/
theorem value_of_scale_zero (scale : d.scale = 0) : d.value = d.signedCoefficient := by
  rw [value, scale, show tenPow 0 = 1 from rfl, Nat.cast_one, div_one]

theorem value_neg : d.neg.value = -d.value := by
  have turned : d.neg.signedCoefficient = -d.signedCoefficient := by
    unfold signedCoefficient neg
    cases d.negative <;> simp
  rw [value, value, turned, Int.cast_neg, neg_div]
  rfl

end Decimal

/-! ## Literals -/

/-- The value holds the integer as a value of the type. -/
inductive Value.IsWhole : DataType → Value → ℤ → Prop
  | integer {type : DataType} {value : Value} {whole : ℤ}
      (isInteger : IsInteger type value whole) : IsWhole type value whole
  | decimal {d : Decimal} {whole : ℤ} (number : d.value = whole) :
      IsWhole .decimal (.decimal d) whole

/-- The smallest of the types of literals that has room for the integer, as long as any has. -/
def DataType.smallest (whole : ℤ) : DataType :=
  if InRange 32 whole then .int else if InRange 64 whole then .long else .decimal

namespace Value

section Digits

variable {text : String} (nonempty : text.toList ≠ []) (all : ∀ c ∈ text.toList, isDigit c = true)

include nonempty all

theorem ofInteger?_of_digits : ofInteger? text
    = ((BoundedInt.ofInt? (magnitude text)).map int).or
        ((BoundedInt.ofInt? (magnitude text)).map long) := by
  rw [ofInteger?, readInt?_of_digits nonempty all, appendDigits_zero, Option.bind_some]

theorem readExact?_of_digits :
    Decimal.readExact? text = Decimal.ofParts? false (magnitude text) 0 := by
  have noMark : ∀ c ∈ text.toList, (!Decimal.marksExponent c) = true := by
    intro c member
    have digit := all c member
    rw [Decimal.marksExponent, Bool.not_eq_true', Bool.or_eq_false_iff, beq_eq_false_iff_ne,
      beq_eq_false_iff_ne]
    constructor <;> (rintro rfl; exact absurd digit (by decide))
  have noSign := splitSign_of_digits all
  have read : Decimal.Scan.run? { negative := false } text.toList
      = Decimal.ofParts? false (appendDigits 0 text.toList) 0 :=
    Decimal.Scan.run?_of_digits all (twoPow_pos 96) (.inr nonempty)
  simp only [Decimal.readExact?, Decimal.readWith?, List.takeWhile_eq_self_iff.mpr noMark,
    List.dropWhile_eq_nil_iff.mpr noMark, Decimal.readPlain?, noSign]
  rw [read, appendDigits_zero]

/-- **Digits become a literal** of the smallest type that has room for their number. -/
theorem ofNumber_of_digits (room : magnitude text < twoPow 96) :
    ∃ value, ofNumber text = .ok value ∧
      value.IsWhole (.smallest (magnitude text)) (magnitude text) := by
  rw [ofNumber, ofInteger?_of_digits nonempty all, readExact?_of_digits nonempty all,
    DataType.smallest]
  by_cases narrow : InRange 32 (magnitude text)
  · rw [BoundedInt.ofInt?_of_inRange narrow, if_pos narrow]
    exact ⟨_, rfl, .integer (.int _)⟩
  · rw [BoundedInt.ofInt?_of_not_inRange narrow, if_neg narrow]
    by_cases wide : InRange 64 (magnitude text)
    · rw [BoundedInt.ofInt?_of_inRange wide, if_pos wide]
      exact ⟨_, rfl, .integer (.long _)⟩
    · rw [BoundedInt.ofInt?_of_not_inRange wide, if_neg wide, Decimal.ofParts?,
        dif_pos ⟨room, by decide⟩]
      refine ⟨_, rfl, .decimal ?_⟩
      exact Decimal.value_of_scale_zero rfl

/-- Digits are refused if no decimal has room for their number. -/
theorem ofNumber_of_large (full : twoPow 96 ≤ magnitude text) :
    ofNumber text = .error (.schema (.invalidNumber text)) := by
  have outside : ∀ bits, twoPow (bits - 1) ≤ twoPow 96 → ¬ InRange bits (magnitude text) := by
    intro bits narrower inRange
    have below := BoundedInt.inRange_natCast.mp inRange
    omega
  rw [ofNumber, ofInteger?_of_digits nonempty all, readExact?_of_digits nonempty all,
    BoundedInt.ofInt?_of_not_inRange (outside 32 (by decide)),
    BoundedInt.ofInt?_of_not_inRange (outside 64 (by decide)), Decimal.ofParts?_of_full full]
  rfl

end Digits

end Value

/-- The sign of a number changes the smallest type exactly for the least integers of a type. -/
theorem DataType.smallest_neg_iff {number : ℕ} :
    smallest (-number : ℤ) = smallest number ↔ ¬ (number = twoPow 31 ∨ number = twoPow 63) := by
  have narrower : twoPow (32 - 1) < twoPow (64 - 1) := by decide
  have isInt : twoPow 31 = twoPow (32 - 1) := rfl
  have isLong : twoPow 63 = twoPow (64 - 1) := rfl
  simp only [smallest, BoundedInt.inRange_natCast, BoundedInt.inRange_neg_natCast]
  split_ifs <;> simp <;> omega

namespace Expr

/-- **The sign does not change the type** of a literal that was written without one. -/
theorem negatedLiteral?_of_isWhole {type : DataType} {value : Value} {number : ℕ}
    (holds : value.IsWhole type number) :
    ∃ result, negatedLiteral? value = some result ∧ result.IsWhole type (-number) := by
  generalize isWhole : (number : ℤ) = whole at holds
  cases holds with
  | integer isInteger =>
      cases isInteger with
      | int held =>
          have inRange := held.neg_inRange (isWhole ▸ Int.natCast_nonneg number)
          rw [negatedLiteral?, BoundedInt.ofInt?_of_inRange inRange]
          exact ⟨_, rfl, .integer (.int _)⟩
      | long held =>
          have inRange := held.neg_inRange (isWhole ▸ Int.natCast_nonneg number)
          rw [negatedLiteral?, BoundedInt.ofInt?_of_inRange inRange]
          exact ⟨_, rfl, .integer (.long _)⟩
  | @decimal d _ same =>
      exact ⟨.decimal d.neg, rfl, .decimal (by rw [Decimal.value_neg, same, Int.cast_neg])⟩

/-- **Digits keep their number**, with a minus sign or without, as a literal of the smallest type
that has room for the digits.  This is the smallest type that has room for the number, unless the
number is the least integer of a type.  Digits are refused only if no decimal has room for their
number. -/
theorem ofTerm_numeral (scope : NameScope) (negative : Bool) (text : String) (long : Bool)
    (nonempty : text.toList ≠ []) (digits : ∀ c ∈ text.toList, isDigit c = true) :
    let whole : ℤ := if negative then -magnitude text else magnitude text
    (magnitude text < twoPow 96 →
      ∃ value, ofTerm scope (.numeral negative text long) = .ok (.literal value) ∧
        value.IsWhole (.smallest (magnitude text)) whole) ∧
    (DataType.smallest (magnitude text) = .smallest whole ↔
      ¬ (negative = true ∧ (magnitude text = twoPow 31 ∨ magnitude text = twoPow 63))) ∧
    (twoPow 96 ≤ magnitude text →
      ofTerm scope (.numeral negative text long) = .error (.schema (.invalidNumber text))) := by
  intro whole
  refine ⟨fun room => ?_, ?_, fun full => ?_⟩
  · obtain ⟨value, read, holds⟩ := Value.ofNumber_of_digits nonempty digits room
    cases negative with
    | false => exact ⟨value, congrArg (Except.map literal) read, holds⟩
    | true =>
        obtain ⟨result, negates, holds⟩ := negatedLiteral?_of_isWhole holds
        refine ⟨result, ?_, holds⟩
        have turned : negated (.literal value) = .literal result := by rw [negated, negates]
        have planned : ofTerm scope (.numeral true text long)
            = ((Value.ofNumber text).map literal).map negated := rfl
        rw [planned, read, map_ok, map_ok, turned]
  · cases negative with
    | false => exact iff_of_true rfl nofun
    | true =>
        rw [eq_comm, show DataType.smallest whole = .smallest (-magnitude text) from rfl,
          DataType.smallest_neg_iff, eq_self, true_and]
  · have refused := Value.ofNumber_of_large nonempty digits full
    cases negative with
    | false => exact congrArg (Except.map literal) refused
    | true => exact congrArg (fun read => (Except.map literal read).map negated) refused

/-- The least `INT` is a literal of type `BIGINT`, and the least `BIGINT` one of type `DECIMAL`. -/
theorem ofTerm_numeral_of_least :
    let int := "2147483648"
    let long := "9223372036854775808"
    (∃ value, ofTerm {} (.numeral true int false) = .ok (.literal value) ∧
      value.IsWhole .long (-2147483648) ∧ DataType.smallest (-2147483648) = .int) ∧
    ∃ value, ofTerm {} (.numeral true long false) = .ok (.literal value) ∧
      value.IsWhole .decimal (-9223372036854775808) ∧
      DataType.smallest (-9223372036854775808) = .long := by
  intro int long
  have intMagnitude : magnitude int = 2147483648 := by decide +kernel
  have longMagnitude : magnitude long = 9223372036854775808 := by decide +kernel
  have intDigits : int.toList.all isDigit = true := by decide
  have longDigits : long.toList.all isDigit = true := by decide
  obtain ⟨readInt, -, -⟩ :=
    ofTerm_numeral {} true int false (by decide) (List.all_eq_true.mp intDigits)
  obtain ⟨readLong, -, -⟩ :=
    ofTerm_numeral {} true long false (by decide) (List.all_eq_true.mp longDigits)
  rw [intMagnitude] at readInt
  rw [longMagnitude] at readLong
  obtain ⟨first, isFirst, firstWhole⟩ := readInt (by decide)
  obtain ⟨second, isSecond, secondWhole⟩ := readLong (by decide)
  exact ⟨⟨first, isFirst, firstWhole, by decide⟩, second, isSecond, secondWhole, by decide⟩

end Expr

end ScalarSql
