import Mathlib.Data.List.DropRight
import ScalarSql.Function.Builtin
import ScalarSql.Proofs.Function.Registry
import ScalarSql.Proofs.Function.Typed
import ScalarSql.Proofs.Number.BoundedInt

/-!
# Parts of texts

`substr` computes the two ends of a part with integers of 64 bits and then cuts the part out of
the list of characters.  A sum that does not fit and an end that is not in the text would each
make it panic.  Neither happens: both ends are where they should be, `Builtin.startOf_eq` and
`Builtin.stopOf_eq`, and what is cut out is what remains when characters are dropped and taken,
`Builtin.substring_eq`.

**How long a text is.**  Characters are listed in memory at four bytes each, and a list takes
fewer than `2 ^ 63` bytes.  That leaves ample room for the sums, whose other operand has 32 bits.

**Main result.**  `Builtin.substr_exact`.
-/

set_option autoImplicit false

namespace ScalarSql.Builtin

open BoundedInt (InRange val_widen)

/-! ## Arithmetic -/

theorem twoPow_31 : twoPow (32 - 1) = 2147483648 := rfl

theorem twoPow_63 : twoPow (64 - 1) = 9223372036854775808 := rfl

theorem val_zero : (BoundedInt.wrap 0 : BoundedInt 64).val = 0 :=
  BoundedInt.val_wrap_of_lt (twoPow_pos 63)

/-- Arithmetic in range gives its exact result. -/
theorem fitting_eq (operation : String) {number : Int} (inRange : InRange 64 number) :
    ∃ result, fitting operation number = .value result ∧ result.val = number :=
  ⟨_, by rw [fitting, BoundedInt.ofInt?_of_inRange inRange], rfl⟩

/-- An integer that is not negative is its own index. -/
theorem asIndex_eq {number : BoundedInt 64} (nonneg : 0 ≤ number.val) :
    asIndex number = number.val.toNat := by
  have wider : (twoPow (64 - 1) : Int) < twoPow 64 := Int.ofNat_lt.mpr (by decide)
  rw [asIndex, Int.emod_eq_of_lt nonneg (Int.lt_trans number.upper wider)]

/-! ## The two ends -/

/-- How many characters of a text stand before a position. -/
def before (length : Nat) (position : Int) : Nat :=
  if 0 < position then (position - 1).toNat
  else if position < 0 then length - position.natAbs
  else 0

/-- Whether a list of characters can be held in memory, at four bytes each. -/
def Holdable (text : List Char) : Prop := 4 * text.length < twoPow 63

instance (text : List Char) : Decidable (Holdable text) :=
  inferInstanceAs (Decidable (_ < _))

variable {text : List Char} {total start stop : BoundedInt 64}

/-- **The first end** of a part is where the position is, and it is found without overflow. -/
theorem startOf_eq (length : total.val = text.length) (position : BoundedInt 32) :
    ∃ start, startOf total position = .value start ∧
      start.val = before text.length position.val := by
  have lower := position.lower
  have upper := position.upper
  have room := total.upper
  rw [twoPow_31] at lower upper
  rw [twoPow_63] at room
  unfold startOf before
  split
  · have inRange : InRange 64 (position.widen.val - 1) := by
      constructor <;> rw [twoPow_63, val_widen] <;> omega
    obtain ⟨start, computed, isStart⟩ := fitting_eq "subtract" inRange
    exact ⟨start, computed, by rw [isStart, val_widen]; omega⟩
  · split
    · have inRange : InRange 64 (total.val + position.widen.val) := by
        constructor <;> rw [twoPow_63, val_widen] <;> omega
      obtain ⟨sum, computed, isSum⟩ := fitting_eq "add" inRange
      refine ⟨_, by rw [computed, Outcome.map_value], ?_⟩
      rw [apply_ite BoundedInt.val, val_zero, isSum, val_widen]
      omega
    · exact ⟨_, rfl, val_zero⟩

/-- The first end stays far below the largest integer. -/
theorem before_le (length : Nat) (position : BoundedInt 32) :
    before length position.val ≤ max length 2147483647 := by
  have upper := position.upper
  rw [twoPow_31] at upper
  unfold before
  split_ifs <;> omega

/-- **The second end** of a part is as far behind the first one as the part is long, unless the
text ends before.  It is found without overflow. -/
theorem stopOf_eq (holdable : Holdable text) (length : total.val = text.length)
    {position count : BoundedInt 32} (begins : start.val = before text.length position.val)
    (positive : 0 < count.val) :
    ∃ stop, stopOf total start count = .value stop ∧
      stop.val = min (before text.length position.val + count.val.toNat) text.length := by
  have upper := count.upper
  have near := before_le text.length position
  have room : 4 * text.length < 9223372036854775808 := holdable
  rw [twoPow_31] at upper
  have inRange : InRange 64 (start.val + count.widen.val) := by
    constructor <;> rw [twoPow_63, val_widen] <;> omega
  obtain ⟨sum, computed, isSum⟩ := fitting_eq "add" inRange
  unfold stopOf
  refine ⟨_, by rw [computed, Outcome.map_value], ?_⟩
  rw [apply_ite BoundedInt.val, isSum, val_widen]
  omega

/-! ## The part -/

/-- **A part between two ends in the text** is cut out of it. -/
theorem partOf_eq (length : total.val = text.length) (nonneg : 0 ≤ start.val)
    (inText : stop.val ≤ total.val) :
    partOf text total start stop
      = .value ((text.take stop.val.toNat).drop start.val.toNat) := by
  unfold partOf
  split
  · next empty =>
      simp only [Bool.or_eq_true, decide_eq_true_eq] at empty
      have nothing : ((text.take stop.val.toNat).drop start.val.toNat).length = 0 := by
        rw [List.length_drop, List.length_take]
        omega
      rw [List.length_eq_zero_iff.mp nothing]
  · next between =>
      simp only [Bool.or_eq_true, decide_eq_true_eq, not_or, Int.not_le] at between
      rw [asIndex_eq nonneg, asIndex_eq (by omega), slice, if_neg (by omega), if_neg (by omega)]

/-- **Parts of texts.**  What begins at a position is the text without the characters before it,
and a part of it is what is taken of this. -/
theorem substring_eq (holdable : Holdable text) (position : BoundedInt 32) :
    substring text position none = .value (text.drop (before text.length position.val)) ∧
      ∀ count : BoundedInt 32, substring text position (some count)
        = .value ((text.drop (before text.length position.val)).take count.val.toNat) := by
  have room : text.length < twoPow 63 := by
    unfold Holdable at holdable
    omega
  have length := BoundedInt.val_wrap_of_lt room
  obtain ⟨start, begins, isStart⟩ := startOf_eq length position
  have nonneg : 0 ≤ start.val := by omega
  simp only [substring, begins, Outcome.bind_value]
  constructor
  · rw [partOf_eq length nonneg (Int.le_refl _), length, isStart, Int.toNat_natCast,
      Int.toNat_natCast, List.take_length]
  · intro count
    split
    · next nothing => rw [Int.toNat_eq_zero.mpr nothing, List.take_zero]
    · next some =>
        obtain ⟨stop, ends, isStop⟩ := stopOf_eq holdable length isStart (Int.not_le.mp some)
        have sameStart : start.val.toNat = before text.length position.val := by omega
        have sameStop : min stop.val.toNat text.length
            = min (before text.length position.val + count.val.toNat) text.length := by omega
        rw [ends, Outcome.bind_value, partOf_eq length nonneg (by omega), sameStart,
          List.take_drop, List.take_eq_take_iff.mpr sameStop]

/-! ## The built-in function -/

/-- Installing functions does not change what is found under other names. -/
theorem lookup_install {declared : List (Except Error ScalarFunction)} {registry : Registry}
    {name : String} (other : ∀ function, .ok function ∈ declared →
      registry.key name ≠ registry.key function.signature.name) :
    (declared.foldl install registry).lookup name = registry.lookup name := by
  induction declared generalizing registry with
  | nil => rfl
  | cons first rest ih =>
      have otherRest := fun function member => other function (List.mem_cons_of_mem first member)
      cases first with
      | error error => exact ih otherRest
      | ok function =>
          exact (@ih (registry.registerOverload (.scalar function)) otherRest).trans
            (Registry.lookup_alter.trans (if_neg (other function List.mem_cons_self)))

/-- A function that is not random is found in the same way whatever the random numbers are. -/
theorem lookup_registry (generator other : Generator) {name : String}
    (notRandom : Text.lower name ≠ "rand") :
    (registry generator).lookup name = (registry other).lookup name := by
  have parts : ∀ generator, (registry generator).lookup name
      = (((functions generator).take 10).foldl install {}).lookup name := by
    intro generator
    rw [registry]
    conv_lhs => rw [← List.take_append_drop 10 (functions generator), List.foldl_append]
    refine lookup_install fun function member => ?_
    have named : function.signature.name = "rand" := by
      obtain first | second : Except.ok function = _ ∨ Except.ok function = _ := by
        simpa [functions] using member
      · cases first
        rfl
      · cases second
        rfl
    rw [named]
    exact notRandom
  rw [parts, parts]
  rfl
/-- What remains of a text from a position on: all but the characters before a positive position,
everything from zero on, and the last characters, as many as there are, from a negative one. -/
theorem drop_before (text : List Char) (position : Int) :
    (0 < position → text.drop (before text.length position) = text.drop (position - 1).toNat) ∧
      (position = 0 → text.drop (before text.length position) = text) ∧
      (position < 0 → text.drop (before text.length position)
        = text.rtake (min position.natAbs text.length)) := by
  unfold before
  refine ⟨fun positive => by rw [if_pos positive], ?_, fun negative => ?_⟩
  · rintro rfl
    rfl
  · have reach : text.length - position.natAbs
        = text.length - min position.natAbs text.length := by omega
    rw [if_neg (by omega), if_pos negative, List.rtake, reach]

/-- **The built-in function `substr`**, of a text and a position, gives the text without the
characters before a positive position, all of it at zero, and its last characters at a negative
position.  With a length as well it gives the first characters of the same, none if the length is
negative.  Arithmetic that overflows and bounds that are not in the text would make it panic, and
the call an error, so that neither occurs. -/
theorem substr_exact (generator : Generator) :
    ∃ fromPosition ofLength : Callable,
      (registry generator).lookup "substr" = some [fromPosition, ofLength] ∧
      ∀ (text : String) (position : BoundedInt 32), Holdable text.toList →
        ∃ rest : List Char,
          ((0 < position.val → rest = text.toList.drop (position.val - 1).toNat) ∧
            (position.val = 0 → rest = text.toList) ∧
            (position.val < 0 →
              rest = text.toList.rtake (min position.val.natAbs text.toList.length))) ∧
          fromPosition.invoke [.string text, .int position] = .ok (.string (.ofList rest)) ∧
          ∀ length : BoundedInt 32,
            ofLength.invoke [.string text, .int position, .int length]
              = .ok (.string (.ofList (rest.take (max length.val 0).toNat))) := by
  refine ⟨_, _, (lookup_registry generator {} (by decide)).trans rfl,
    fun text position holdable => ?_⟩
  obtain ⟨suffix, parts⟩ := substring_eq holdable position
  refine ⟨_, drop_before text.toList position.val, ?_, fun length => ?_⟩
  · refine (ScalarFunction.invoke_eq_report rfl rfl).trans ?_
    show ScalarFunction.report _ (((substring text.toList position none).map String.ofList).map
      (HostType.encode .string)) = _
    rw [suffix]
    rfl
  · refine (ScalarFunction.invoke_eq_report rfl rfl).trans ?_
    show ScalarFunction.report _ (((substring text.toList position (some length)).map
      String.ofList).map (HostType.encode .string)) = _
    rw [parts length, show (max length.val 0).toNat = length.val.toNat by omega]
    rfl

/-- Positions and lengths as far from zero as they can be. -/
theorem substr_exact_of_limits :
    let least : BoundedInt 32 := ⟨-2147483648, by decide, by decide⟩
    let greatest : BoundedInt 32 := ⟨2147483647, by decide, by decide⟩
    let text : Value := .string "größe"
    ∃ fromPosition ofLength : Callable,
      (registry {}).lookup "substr" = some [fromPosition, ofLength] ∧
      Holdable "größe".toList ∧
      fromPosition.invoke [text, .int least] = .ok text ∧
      ofLength.invoke [text, .int least, .int greatest] = .ok text ∧
      ofLength.invoke [text, .int greatest, .int greatest] = .ok (.string "") ∧
      fromPosition.invoke [text, .int (.wrap (-2))] = .ok (.string "ße") ∧
      ofLength.invoke [text, .int (.wrap 2), .int (.wrap 3)] = .ok (.string "röß") ∧
      ofLength.invoke [text, .int (.wrap 0), .int least] = .ok (.string "") := by
  intro least greatest text
  obtain ⟨fromPosition, ofLength, found, exact⟩ := substr_exact {}
  have holdable : Holdable "größe".toList := by decide
  obtain ⟨_, ⟨-, -, all⟩, atLeast, partAtLeast⟩ := exact "größe" least holdable
  obtain ⟨_, ⟨nothing, -, -⟩, -, partAtGreatest⟩ := exact "größe" greatest holdable
  obtain ⟨_, ⟨-, -, lastTwo⟩, atMinusTwo, -⟩ := exact "größe" (.wrap (-2)) holdable
  obtain ⟨_, ⟨allButOne, -, -⟩, -, partAtTwo⟩ := exact "größe" (.wrap 2) holdable
  obtain ⟨_, ⟨-, whole, -⟩, -, partAtZero⟩ := exact "größe" (.wrap 0) holdable
  obtain rfl := all (by decide)
  obtain rfl := nothing (by decide)
  obtain rfl := lastTwo (by decide)
  obtain rfl := allButOne (by decide)
  obtain rfl := whole (by decide)
  exact ⟨fromPosition, ofLength, found, holdable, atLeast, partAtLeast greatest,
    partAtGreatest greatest, atMinusTwo, partAtTwo (.wrap 3), partAtZero least⟩

end ScalarSql.Builtin
