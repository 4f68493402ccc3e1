import ScalarSql.Proofs.Expr.Numbers
import ScalarSql.Proofs.Value.Conversion
import ScalarSql.Proofs.Value.Text
import ScalarSql.Value.Cast
import ScalarSql.Value.Order

/-!
# Values read back from their texts

A value that is cast to `STRING` is written as its text, and a cast of a text reads the value that
the text writes.  For integers, decimals and truth values the two are inverse to each other, so a
value goes through its text and comes back, `Value.castTo_string_inverse`.

**Blanks.**  Reading trims the text first.  The text of such a value has no blanks, so those around
it are all that is trimmed, `Text.trim_surrounded`.

**What comes back.**  Integers and truth values come back as they are.  A decimal comes back with
its number and with its fraction digits, but a zero loses its sign, `Decimal.read?_text`.
-/

set_option autoImplicit false

namespace ScalarSql

/-! ## Blanks -/

namespace Text

/-- **Blanks around a text** that has none are trimmed. -/
theorem trim_surrounded {before text after : String}
    (blankBefore : ∀ c ∈ before.toList, isBlank c = true)
    (blankAfter : ∀ c ∈ after.toList, isBlank c = true)
    (solid : ∀ c ∈ text.toList, isBlank c = false) : trim (before ++ text ++ after) = text := by
  rw [trim, String.toList_append, String.toList_append, List.append_assoc,
    List.dropWhile_append_of_pos blankBefore, ← String.toList_inj, String.toList_ofList]
  generalize text.toList = letters at solid
  cases letters with
  | nil => rw [List.nil_append, List.dropWhile_eq_nil_iff.mpr blankAfter]; rfl
  | cons first rest =>
      have starts : ((first :: rest) ++ after.toList).dropWhile isBlank
          = (first :: rest) ++ after.toList :=
        List.dropWhile_cons_of_neg (by rw [solid first List.mem_cons_self]; decide)
      have ends : (first :: rest).reverse.dropWhile isBlank = (first :: rest).reverse := by
        refine List.dropWhile_eq_self_iff.mpr fun bound => ?_
        rw [solid _ (List.mem_reverse.mp (List.getElem_mem bound))]
        decide
      rw [starts, List.reverse_append, List.dropWhile_append_of_pos fun c member =>
        blankAfter c (List.mem_reverse.mp member), ends, List.reverse_reverse]

theorem isBlank_digit : ∀ code < 58, 48 ≤ code → inRanges blankRanges code = false := by
  decide

theorem isBlank_of_isDigit {c : Char} (digit : isDigit c = true) : isBlank c = false := by
  obtain ⟨low, high⟩ := isDigit_iff.mp digit
  exact isBlank_digit c.toNat (Nat.lt_succ_of_le high) low

end Text

/-! ## Digits -/

theorem isDigit_of_char {c : Char} (digit : c.isDigit = true) : isDigit c = true := by
  rw [Char.isDigit, Bool.and_eq_true, decide_eq_true_iff, decide_eq_true_iff] at digit
  exact isDigit_iff.mpr digit

theorem appendDigits_eq (number : ℕ) (digits : List Char) :
    appendDigits number digits = Nat.ofDigitChars 10 digits number := by
  refine congrArg (fun step => List.foldl step number digits) ?_
  funext value c
  rw [Nat.mul_comm]

theorem appendDigits_append (number : ℕ) (first second : List Char) :
    appendDigits number (first ++ second) = appendDigits (appendDigits number first) second :=
  List.foldl_append

/-! ## Integers -/

namespace BoundedInt

variable {bits : ℕ} (value : BoundedInt bits)

theorem all_isDigit_digits : ∀ c ∈ value.digits, isDigit c = true :=
  fun _ member => isDigit_of_char (isDigit_of_mem_digits member)

theorem appendDigits_digits : appendDigits 0 value.digits = value.val.natAbs := by
  rw [appendDigits_eq, digits, Nat.ofDigitChars_ten_toDigits]

/-- The characters of an integer. -/
theorem mem_text {c : Char} (member : c ∈ value.text.toList) : c = '-' ∨ isDigit c = true := by
  rw [toList_text, List.mem_append] at member
  rcases member with sign | digit
  · split at sign
    · exact .inl (List.mem_singleton.mp sign)
    · cases sign
  · exact .inr (all_isDigit_digits value c digit)

/-- **An integer is read back** from its text. -/
theorem readInt?_text : readInt? value.text.toList = some value.val := by
  have digits := all_isDigit_digits value
  have read := readDigits?_of_digits (digits_ne_nil value) digits
  rw [appendDigits_digits] at read
  rw [toList_text]
  split
  · next negative =>
      simp only [readInt?, List.singleton_append, splitSign, read, if_true]
      show some (-(value.val.natAbs : ℤ)) = some value.val
      rw [Int.ofNat_natAbs_of_nonpos negative.le, neg_neg]
  · next nonneg =>
      rw [List.nil_append, readInt?_of_digits (digits_ne_nil value) digits, appendDigits_digits,
        Int.natAbs_of_nonneg (not_lt.mp nonneg)]

end BoundedInt

/-! ## Decimals -/

namespace Decimal

/-- **Digits are appended** to those that have been read, as long as there is room. -/
theorem Scan.run?_digits_append {digits : List Char} (all : ∀ c ∈ digits, isDigit c = true)
    (rest : List Char) (scan : Scan) (room : appendDigits scan.coefficient digits < twoPow 96)
    (places : scan.fractional = true → scan.scale + digits.length ≤ 28) :
    scan.run? (digits ++ rest)
      = Scan.run?
          { scan with
            coefficient := appendDigits scan.coefficient digits
            scale := if scan.fractional then scan.scale + digits.length else scan.scale
            started := scan.started || !digits.isEmpty } rest := by
  induction digits generalizing scan with
  | nil => simp [appendDigits]
  | cons c later ih =>
      obtain ⟨digit, others⟩ := List.forall_mem_cons.mp all
      rw [appendDigits_cons] at room
      have fits := (le_appendDigits _ later).trans_lt room
      have notFull : (scan.fractional && scan.scale == 28) = false := by
        rw [Bool.and_eq_false_imp]
        intro fractional
        have := places fractional
        rw [List.length_cons] at this
        exact beq_eq_false_iff_ne.mpr (by omega)
      rw [List.cons_append, Scan.run?, notFull, if_neg Bool.false_ne_true,
        digitValue?_of_isDigit digit]
      simp only [fits, if_true]
      rw [ih others _ room]
      · rw [appendDigits_cons]
        cases scan.fractional <;> simp [Nat.add_comm, Nat.add_left_comm]
      · intro fractional
        have := places fractional
        rw [List.length_cons] at this
        show (if scan.fractional then scan.scale + 1 else scan.scale) + later.length ≤ 28
        rw [if_pos fractional]
        omega

variable (d : Decimal)

theorem all_isDigit_digits : ∀ c ∈ d.digits, isDigit c = true :=
  fun _ member => isDigit_of_char (isDigit_of_mem_digits member)

theorem all_isDigit_wholeDigits : ∀ c ∈ d.wholeDigits, isDigit c = true :=
  fun c member => all_isDigit_digits d c (List.mem_of_mem_take member)

theorem all_isDigit_fractionDigits : ∀ c ∈ d.fractionDigits, isDigit c = true :=
  fun c member => all_isDigit_digits d c (List.mem_of_mem_drop member)

theorem appendDigits_digits : appendDigits 0 d.digits = d.coefficient := by
  rw [appendDigits_eq, digits, Nat.ofDigitChars_append, Nat.ofDigitChars_replicate_zero,
    Nat.mul_zero, Nat.ofDigitChars_ten_toDigits]

theorem wholeDigits_append_fractionDigits : d.wholeDigits ++ d.fractionDigits = d.digits :=
  List.take_append_drop ..

/-- The characters of a decimal. -/
theorem mem_text {c : Char} (member : c ∈ d.text.toList) :
    c = '-' ∨ c = '.' ∨ isDigit c = true := by
  rw [toList_text, List.append_assoc, List.mem_append, List.mem_append] at member
  rcases member with sign | whole | fraction
  · split at sign
    · exact .inl (List.mem_singleton.mp sign)
    · cases sign
  · exact .inr (.inr (all_isDigit_wholeDigits d c whole))
  · split at fraction
    · cases fraction
    · rcases List.mem_cons.mp fraction with point | fraction
      · exact .inr (.inl point)
      · exact .inr (.inr (all_isDigit_fractionDigits d c fraction))

/-- The sign is split from the digits. -/
theorem splitSign_text : splitSign d.text.toList
    = (d.negative, d.wholeDigits ++ if d.scale = 0 then [] else '.' :: d.fractionDigits) := by
  rw [toList_text, List.append_assoc]
  cases negative : d.negative with
  | true => rfl
  | false =>
      have digits := all_isDigit_wholeDigits d
      have nonempty := wholeDigits_ne_nil d
      generalize d.wholeDigits = whole at digits nonempty
      cases whole with
      | nil => exact absurd rfl nonempty
      | cons c rest => exact splitSign_of_isDigit (digits c List.mem_cons_self)

/-- **A decimal is scanned** digit by digit: first the digits before the point, then those after
it. -/
theorem readPlain?_text :
    readPlain? d.text.toList = ofParts? d.negative d.coefficient d.scale := by
  have total : appendDigits (appendDigits 0 d.wholeDigits) d.fractionDigits = d.coefficient := by
    rw [← appendDigits_append, wholeDigits_append_fractionDigits, appendDigits_digits]
  have room : appendDigits 0 d.wholeDigits < twoPow 96 := by
    have later := le_appendDigits (appendDigits 0 d.wholeDigits) d.fractionDigits
    rw [total] at later
    exact later.trans_lt d.coefficient_lt
  have started : (false || !d.wholeDigits.isEmpty) = true := by
    rw [List.isEmpty_eq_false_iff.mpr (wholeDigits_ne_nil d)]
    rfl
  simp only [readPlain?, splitSign_text]
  rw [Scan.run?_digits_append (all_isDigit_wholeDigits d) _ _ room
    fun fractional => absurd fractional Bool.false_ne_true]
  simp only [started, Bool.false_eq_true, if_false]
  split
  · next whole =>
      have noFraction : d.fractionDigits = [] := by
        rw [← List.length_eq_zero_iff, length_fractionDigits, whole]
      rw [noFraction] at total
      rw [Scan.run?, Scan.finish?, whole, ← total]
      rfl
  · next fractional =>
      have dot : digitValue? '.' = none := by decide
      have scanned := Scan.run?_digits_append (all_isDigit_fractionDigits d) []
        { negative := d.negative, coefficient := appendDigits 0 d.wholeDigits, fractional := true,
          started := true } (total ▸ d.coefficient_lt)
        fun _ => by rw [length_fractionDigits, Nat.zero_add]; exact d.scale_le
      rw [List.append_nil] at scanned
      simp only [Scan.run?, dot]
      refine scanned.trans ?_
      simp [Scan.run?, Scan.finish?, total, length_fractionDigits]

/-- A decimal has no exponent, so it is read without one. -/
theorem readWith?_text (lower : Decimal → ℕ → Option Decimal) :
    readWith? lower d.text = ofParts? d.negative d.coefficient d.scale := by
  have noMark : ∀ c ∈ d.text.toList, (!marksExponent c) = true := by
    intro c member
    rcases mem_text d member with rfl | rfl | digit
    · rfl
    · rfl
    · rw [marksExponent, Bool.not_eq_true', Bool.or_eq_false_iff, beq_eq_false_iff_ne,
        beq_eq_false_iff_ne]
      constructor <;> (rintro rfl; exact absurd digit (by decide))
  simp only [readWith?, List.takeWhile_eq_self_iff.mpr noMark,
    List.dropWhile_eq_nil_iff.mpr noMark, readPlain?_text]

/-- **A decimal is read back** from its text with its number and its fraction digits. -/
theorem read?_text :
    ∃ back, read? d.text = some back ∧ back.sameNumber d = true ∧ back.scale = d.scale := by
  rw [read?, readWith?_text, ofParts?, dif_pos ⟨d.coefficient_lt, d.scale_le⟩]
  refine ⟨_, rfl, ?_, rfl⟩
  have signed : (if (d.negative && d.coefficient != 0) = true then -(d.coefficient : ℤ)
      else d.coefficient) = d.signedCoefficient := by
    rw [signedCoefficient]
    cases d.negative with
    | false => rfl
    | true => by_cases zero : d.coefficient = 0 <;> simp [zero]
  exact beq_iff_eq.mpr (congrArg (· * (tenPow (28 - d.scale) : ℤ)) signed)

end Decimal

/-! ## Values -/

namespace Value

/-- The value is an integer, a decimal or a truth value, and of this type. -/
inductive Textual : DataType → Value → Prop
  | int (number : BoundedInt 32) : Textual .int (.int number)
  | long (number : BoundedInt 64) : Textual .long (.long number)
  | decimal (d : Decimal) : Textual .decimal (.decimal d)
  | boolean (truth : Bool) : Textual .boolean (.boolean truth)

variable {value : Value} {type : DataType}

theorem Textual.of_hasType (among : type ∈ [.int, .long, .decimal, .boolean])
    (typed : value.hasType type = true) (given : value.isNull = false) : Textual type value := by
  simp only [List.mem_cons, List.not_mem_nil, or_false] at among
  rcases among with rfl | rfl | rfl | rfl
  all_goals
    cases value with
    | null => cases given
    | _ => first | constructor | cases typed

/-- **A value is read back** from its text as an equal one. -/
theorem Textual.read?_text (textual : Textual type value) :
    ∃ back, read? value.text type = some back ∧ back.same value = true := by
  cases textual with
  | int number =>
      refine ⟨.int number, ?_, beq_self_eq_true _⟩
      rw [text, read?, number.readInt?_text, Option.bind_some, BoundedInt.ofInt?_val]
      rfl
  | long number =>
      refine ⟨.long number, ?_, beq_self_eq_true _⟩
      rw [text, read?, number.readInt?_text, Option.bind_some, BoundedInt.ofInt?_val]
      rfl
  | decimal d =>
      obtain ⟨back, read, same, -⟩ := d.read?_text
      exact ⟨.decimal back, by rw [text, read?, read]; rfl, same⟩
  | boolean truth => exact ⟨.boolean truth, by cases truth <;> rfl, beq_self_eq_true _⟩

/-- There are no blanks in the text. -/
theorem Textual.solid (textual : Textual type value) :
    ∀ c ∈ value.text.toList, Text.isBlank c = false := by
  have minus : Text.isBlank '-' = false := by decide
  have point : Text.isBlank '.' = false := by decide
  have integer {bits : ℕ} (number : BoundedInt bits) :
      ∀ c ∈ number.text.toList, Text.isBlank c = false := by
    intro c member
    rcases number.mem_text member with rfl | digit
    · exact minus
    · exact Text.isBlank_of_isDigit digit
  cases textual with
  | int number => exact integer number
  | long number => exact integer number
  | decimal d =>
      intro c member
      rcases d.mem_text member with rfl | rfl | digit
      · exact minus
      · exact point
      · exact Text.isBlank_of_isDigit digit
  | boolean truth =>
      have word : (Value.boolean truth).text.toList.all (fun c => !Text.isBlank c) = true := by
        cases truth <;> rfl
      intro c member
      exact (Bool.not_eq_true' _).mp (List.all_eq_true.mp word c member)

/-- The value is cast to its text. -/
theorem Textual.castTo_string (textual : Textual type value) (checked : Bool) :
    value.castTo .string checked = .ok (.string value.text) := by
  cases textual <;> rfl

/-- A text is cast to what is written between its blanks. -/
theorem castTo_of_string (among : type ∈ [.int, .long, .decimal, .boolean]) (text : String)
    (checked : Bool) :
    (string text).castTo type checked
      = castResult (.string text) type (read? (Text.trim text) type) := by
  have other : ((string text).isNull || type == .unresolved || (string text).ownType == type)
      = false := by
    simp only [List.mem_cons, List.not_mem_nil, or_false] at among
    rcases among with rfl | rfl | rfl | rfl <;> rfl
  rw [castTo, other, if_neg Bool.false_ne_true, convertTo_string]

/-- **Casting to `STRING` and back** gives an equal value, with any blanks around the text.  A text
that is cast both to `INT` and to `BIGINT` is the same integer for both. -/
theorem castTo_string_inverse (checked rechecked : Bool) :
    (∀ (value : Value) (type : DataType) (before after : String),
      type ∈ [.int, .long, .decimal, .boolean] → value.hasType type = true →
      value.isNull = false → (∀ c ∈ before.toList, Text.isBlank c = true) →
      (∀ c ∈ after.toList, Text.isBlank c = true) →
        ∃ text back, value.castTo .string checked = .ok (.string text) ∧
          (string (before ++ text ++ after)).castTo type rechecked = .ok back ∧
          back.same value = true) ∧
    ∀ text narrow wide, (string text).castTo .int checked = .ok narrow →
      (string text).castTo .long rechecked = .ok wide →
        ∃ whole, IsInteger .int narrow whole ∧ IsInteger .long wide whole := by
  constructor
  · intro value type before after among typed given blankBefore blankAfter
    have textual := Textual.of_hasType among typed given
    obtain ⟨back, read, same⟩ := textual.read?_text
    refine ⟨value.text, back, textual.castTo_string checked, ?_, same⟩
    rw [castTo_of_string among, castResult_eq_ok,
      Text.trim_surrounded blankBefore blankAfter textual.solid, read]
  · intro text narrow wide toInt toLong
    rw [castTo_of_string (by decide), castResult_eq_ok] at toInt toLong
    -- Both casts read the integer that the text writes, and differ only in the room for it.
    replace toInt : ((readInt? (Text.trim text).toList).bind BoundedInt.ofInt?).map int
      = some narrow := toInt
    replace toLong : ((readInt? (Text.trim text).toList).bind BoundedInt.ofInt?).map long
      = some wide := toLong
    cases read : readInt? (Text.trim text).toList with
    | none =>
        rw [read] at toInt
        cases toInt
    | some whole =>
        rw [read, Option.bind_some] at toInt toLong
        exact ⟨whole, isInteger_int.mpr toInt, isInteger_long.mpr toLong⟩

/-- The least `BIGINT` comes back from between a tabulator and a no-break space, and a text with a
plus sign is the same integer for both types. -/
theorem castTo_string_inverse_of_blanks :
    let least : Value := .long (.wrap (-9223372036854775808))
    (∃ text back, least.castTo .string false = .ok (.string text) ∧
      (string ("\t" ++ text ++ "\u00a0")).castTo .long true = .ok back ∧
      back.same least = true) ∧
    ∃ whole, IsInteger .int (.int (.wrap 7)) whole ∧ IsInteger .long (.long (.wrap 7)) whole := by
  intro least
  obtain ⟨inverse, same⟩ := castTo_string_inverse false true
  have tabulator : ∀ c ∈ "\t".toList, Text.isBlank c = true := List.all_eq_true.mp rfl
  have fixedSpace : ∀ c ∈ "\u00a0".toList, Text.isBlank c = true := List.all_eq_true.mp rfl
  exact ⟨inverse least .long "\t" "\u00a0" (by decide) (by decide) (by decide) tabulator fixedSpace,
    same " +7" _ _ rfl rfl⟩

end Value

end ScalarSql
