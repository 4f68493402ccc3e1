import ScalarSql.Text.LetterRanges

/-!
# Letters, numbers and blanks

The character classes that identifiers, function names and trimmed texts are defined by.
They follow the Unicode properties of the same names; below code point 128 they are the
familiar ASCII classes and no table is consulted.
-/

set_option autoImplicit false

namespace ScalarSql.Text

/-- Whether a code point lies in one of the ranges. -/
def inRanges (ranges : List (Nat × Nat)) (code : Nat) : Bool :=
  ranges.any fun (first, last) => first ≤ code && code ≤ last

/-- Whether a character is a letter or combines with letters like one. -/
def isAlphabetic (c : Char) : Bool :=
  if c.toNat < 128 then ('a' ≤ c && c ≤ 'z') || ('A' ≤ c && c ≤ 'Z')
  else if c.toNat < 0x10000 then inRanges alphabeticRanges c.toNat
  else inRanges supplementaryAlphabeticRanges c.toNat

/-- Whether a character is a digit or another sign for a number. -/
def isNumeric (c : Char) : Bool :=
  if c.toNat < 128 then '0' ≤ c && c ≤ '9' else inRanges numericRanges c.toNat

/-- Whether a character is a letter or a number. -/
def isAlphanumeric (c : Char) : Bool :=
  isAlphabetic c || isNumeric c

/-- Whether a character is white space. -/
def isBlank (c : Char) : Bool :=
  inRanges blankRanges c.toNat

/-- A text without the white space at its two ends. -/
def trim (text : String) : String :=
  String.ofList ((text.toList.dropWhile isBlank).reverse.dropWhile isBlank).reverse

/-- Whether two names are the same when the case of ASCII letters is ignored. -/
def sameName (left right : String) : Bool :=
  left.toList.map Char.toLower == right.toList.map Char.toLower

/-- Whether a text can name a function: a letter or underscore, then letters, numbers
and underscores. -/
def isIdentifier (text : String) : Bool :=
  match text.toList with
  | [] => false
  | first :: rest =>
      (isAlphabetic first || first == '_') && rest.all fun c => isAlphanumeric c || c == '_'

/-! ## Names that differ in case only -/

theorem sameName_refl (name : String) : sameName name name = true := by
  simp [sameName]

theorem sameName_comm (left right : String) : sameName left right = sameName right left := by
  unfold sameName
  exact BEq.comm

end ScalarSql.Text
