import ScalarSql.Text.Case

/-!
# Names and the case of their letters

Names are looked up without regard to the case of ASCII letters, which is to compare them
with these letters made small, `Text.sameName_iff`.  The full case mappings take other
letters into account, and one of them even the neighbours of a letter, but an ASCII letter
is cased wherever it stands.  So names that only differ in the case of ASCII letters have one
upper case and one lower case, `Text.upper_congr` and `Text.lower_congr`.
-/

set_option autoImplicit false

namespace ScalarSql.Text

/-- The name with all ASCII letters small. -/
def small (name : String) : String := String.ofList (name.toList.map Char.toLower)

/-! ## Letters -/

/-- Only the capitals of ASCII have another small letter, 32 code points further on. -/
theorem toLower_cases (c : Char) :
    c.toLower = c ∨ (65 ≤ c.toNat ∧ c.toNat ≤ 90 ∧ c.toLower.toNat = c.toNat + 32) := by
  unfold Char.toLower
  split
  · next capital =>
      have high : c.toNat ≤ 90 := capital.2
      refine .inr ⟨capital.1, high, ?_⟩
      have sum : (c.val + ('a'.val - 'A'.val)).toNat = (c.toNat + 32) % 2 ^ 32 :=
        UInt32.toNat_add ..
      rw [Nat.mod_eq_of_lt (by omega)] at sum
      exact sum
  · exact .inl rfl

theorem toLower_toLower (c : Char) : c.toLower.toLower = c.toLower := by
  rcases toLower_cases c with same | ⟨low, -, shifted⟩
  · rw [same, same]
  · rcases toLower_cases c.toLower with same | ⟨-, high, -⟩
    · exact same
    · omega

/-- A capital and its small letter are alike in what case mapping asks of neighbours. -/
theorem inRanges_capital : ∀ code < 91, 65 ≤ code →
    inRanges caseIgnorableRanges (code + 32) = inRanges caseIgnorableRanges code ∧
      inRanges casedRanges (code + 32) = inRanges casedRanges code := by
  decide +kernel

theorem inRanges_toLower (c : Char) :
    inRanges caseIgnorableRanges c.toLower.toNat = inRanges caseIgnorableRanges c.toNat ∧
      inRanges casedRanges c.toLower.toNat = inRanges casedRanges c.toNat := by
  rcases toLower_cases c with same | ⟨low, high, shifted⟩
  · rw [same]
    exact ⟨rfl, rfl⟩
  · rw [shifted]
    exact inRanges_capital c.toNat (by omega) low

theorem lowerOf_toLower (c : Char) : lowerOf c.toLower = lowerOf c := by
  rcases toLower_cases c with same | ⟨-, high, shifted⟩
  · rw [same]
  · rw [lowerOf, lowerOf, if_pos (by omega), if_pos (by omega), toLower_toLower]

theorem toUpper_capital : ∀ code < 91, 65 ≤ code →
    (Char.ofNat (code + 32)).toUpper = (Char.ofNat code).toUpper := by
  decide

theorem upperOf_toLower (c : Char) : upperOf c.toLower = upperOf c := by
  rcases toLower_cases c with same | ⟨low, high, shifted⟩
  · rw [same]
  · have upper := toUpper_capital c.toNat (by omega) low
    rw [← shifted, Char.ofNat_toNat, Char.ofNat_toNat] at upper
    rw [upperOf, upperOf, if_pos (by omega), if_pos (by omega), upper]

/-! ## Names -/

theorem toList_small (name : String) : (small name).toList = name.toList.map Char.toLower := by
  rw [small, String.toList_ofList]

theorem sameName_iff {left right : String} :
    sameName left right = true ↔ small left = small right := by
  rw [sameName, beq_iff_eq, ← toList_small, ← toList_small, String.toList_inj]

section Congruence

variable {left right : String} (same : small left = small right) (name : String)

include same

theorem sameName_congr_left : sameName left name = sameName right name := by
  rw [Bool.eq_iff_iff, sameName_iff, sameName_iff, same]

theorem sameName_congr_right : sameName name left = sameName name right := by
  rw [Bool.eq_iff_iff, sameName_iff, sameName_iff, same]

end Congruence

theorem small_small (name : String) : small (small name) = small name := by
  rw [← String.toList_inj, toList_small, toList_small, List.map_map]
  refine List.map_congr_left fun c _ => ?_
  exact toLower_toLower c

theorem small_append (left right : String) : small (left ++ right) = small left ++ small right := by
  rw [← String.toList_inj]
  simp only [toList_small, String.toList_append, List.map_append]

theorem nextIsCased_map (rest : List Char) :
    nextIsCased (rest.map Char.toLower) = nextIsCased rest := by
  induction rest with
  | nil => rfl
  | cons c rest ih =>
      obtain ⟨ignorable, cased⟩ := inRanges_toLower c
      simp only [nextIsCased, List.map_cons, List.dropWhile_cons, ignorable] at ih ⊢
      by_cases passes : inRanges caseIgnorableRanges c.toNat = true
      · rw [if_pos passes, if_pos passes]
        exact ih
      · rw [if_neg passes, if_neg passes]
        exact cased

theorem lowerAfter_map (before rest : List Char) :
    lowerAfter (before.map Char.toLower) (rest.map Char.toLower) = lowerAfter before rest := by
  induction rest generalizing before with
  | nil => rfl
  | cons c rest ih =>
      have sigma : (c.toLower == 'Σ') = (c == 'Σ') := by
        rcases toLower_cases c with same | ⟨-, high, shifted⟩
        · rw [same]
        · have apart : ∀ other : Char, other.toNat < 200 → (other == 'Σ') = false := by
            intro other below
            refine beq_eq_false_iff_ne.mpr ?_
            rintro rfl
            exact absurd below (by decide)
          rw [apart _ (by omega), apart _ (by omega)]
      have later := ih (c :: before)
      rw [List.map_cons] at later
      rw [List.map_cons, lowerAfter, lowerAfter, later, sigma, nextIsCased_map, nextIsCased_map,
        lowerOf_toLower]

theorem lower_small (name : String) : lower (small name) = lower name := by
  rw [lower, toList_small, lower]
  exact congrArg String.ofList (lowerAfter_map [] name.toList)

theorem upper_small (name : String) : upper (small name) = upper name := by
  have letters : upperOf ∘ Char.toLower = upperOf := funext upperOf_toLower
  rw [upper, toList_small, upper, List.flatMap_def, List.map_map, letters, ← List.flatMap_def]

/-- **Names that differ in the case of ASCII letters only** have one lower case. -/
theorem lower_congr {left right : String} (same : small left = small right) :
    lower left = lower right := by
  rw [← lower_small left, same, lower_small]

/-- **Names that differ in the case of ASCII letters only** have one upper case. -/
theorem upper_congr {left right : String} (same : small left = small right) :
    upper left = upper right := by
  rw [← upper_small left, same, upper_small]

end ScalarSql.Text
