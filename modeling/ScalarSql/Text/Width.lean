import ScalarSql.Text.Letter
import ScalarSql.Text.WidthRanges

/-!
# Columns that a text takes up

In a table drawn with characters most characters take one column, a wide character takes
two and a combining mark takes none.  Some sequences are drawn as one: pictures that are
joined, coloured or turned into a flag, and the ligatures of a few scripts.  The columns
of a line are therefore counted from its end, and each character is judged by what stands
behind it.
-/

set_option autoImplicit false

namespace ScalarSql.Text

/-- What the rest of a line starts with, as far as it bears on the character in front. -/
inductive Ahead where
  | other
  | lineFeed
  /-- A picture. -/
  | picture
  /-- A skin tone. -/
  | skinTone
  /-- The last letter of a flag. -/
  | flagLetter
  /-- Two or more letters of flags. -/
  | flagLetters
  /-- A joiner with a picture behind it. -/
  | joiner
  /-- The frame of a key with a joiner behind it. -/
  | joinedFrame
  /-- One letter of a flag with a joiner behind it. -/
  | joinedFlagLetter
  /-- Flag letters with a joiner behind them, an even or an odd number of them. -/
  | joinedFlagLetters (even : Bool)
  /-- The tags of a regional flag with a joiner behind them: its letters, then its digits. -/
  | joinedTags (letters digits : Nat)
  | alef
  | lamed (joined : Bool)
  | ya (joined : Bool)
  /-- The vowel sign i in front of a joined ya. -/
  | vowelYa
  | tifinagh (joined : Bool)
  /-- The consonant joiner in front of a Tifinagh letter. -/
  | tifinaghJoiner
  /-- A Lisu tone letter that ends a combination. -/
  | toneLetter
  | orkhonI (joined : Bool)
  /-- A Khmer letter that can stand below another one. -/
  | stacked
  | kiratE
  | kiratAi
  deriving DecidableEq

namespace Ahead

/-- Whether the state is about letters that are drawn together. -/
def isLigature : Ahead → Bool
  | .alef | .lamed _ | .ya _ | .vowelYa | .tifinagh _ | .tifinaghJoiner | .toneLetter
  | .orkhonI _ | .stacked | .kiratE | .kiratAi => true
  | _ => false

/-- Whether a picture in front is joined to a picture behind. -/
def isJoined : Ahead → Bool
  | .joiner | .joinedFrame => true
  | _ => false

/-- The state in front of a joiner within a ligature. -/
def join : Ahead → Ahead
  | .lamed _ => .lamed true
  | .ya _ => .ya true
  | .tifinagh _ => .tifinagh true
  | .orkhonI _ => .orkhonI true
  | ahead => ahead

end Ahead

/-- A character that chooses between the forms of the one in front of it. -/
inductive Selector where
  | drawn
  | written
  | wide
  deriving DecidableEq

/-- The selector that a character is. -/
def selector? (c : Char) : Option Selector :=
  if c.toNat == 0xFE0F then some .drawn
  else if c.toNat == 0xFE0E then some .written
  else if c.toNat == 0xFE01 then some .wide
  else none

/-- What a selector leaves of the state behind it. -/
def Selector.keep (selector : Selector) (ahead : Ahead) : Ahead :=
  if ahead.isLigature || (selector == .drawn && ahead.isJoined) then ahead else .other

/-- The zero width joiner. -/
def isJoiner (code : Nat) : Bool := code == 0x200D

/-- One of the letters that flags are made of. -/
def isFlagLetter (code : Nat) : Bool := 0x1F1E6 ≤ code && code ≤ 0x1F1FF

/-- One of the skin tones. -/
def isSkinTone (code : Nat) : Bool := 0x1F3FB ≤ code && code ≤ 0x1F3FF

/-- A Tifinagh letter that joins with another one. -/
def isTifinagh (code : Nat) : Bool := (0x2D31 ≤ code && code ≤ 0x2D65) || code == 0x2D6F

/-- A quotation mark with a wide form. -/
def isWideQuote (code : Nat) : Bool :=
  code == 0x2018 || code == 0x2019 || code == 0x201C || code == 0x201D

/-- Whether a picture that is selected as text takes a single column. -/
def hasWrittenForm (code : Nat) : Bool :=
  inRanges variationRanges code && inRanges pictureRanges code
    && !(0x1F200 ≤ code && code ≤ 0x1F2FF)

/-- The columns of a character by itself. -/
def codeWidth (code : Nat) : Int :=
  if code ≤ 0xA0 then 1
  else if code == 0x17D8 then 3
  else if inRanges zeroWidthRanges code then 0
  else if inRanges wideRanges code then 2
  else 1

/-- What a character by itself is to the one in front of it. -/
def aheadOf (code : Nat) : Ahead :=
  if inRanges pictureRanges code then .picture
  else if isSkinTone code then .skinTone
  else if isFlagLetter code then .flagLetter
  else if inRanges alefRanges code then .alef
  else if code == 0x5DC then .lamed false
  else if code == 0x1A10 then .ya false
  else if isTifinagh code then .tifinagh false
  else if code == 0xA4FC || code == 0xA4FD then .toneLetter
  else if code == 0x10C03 then .orkhonI false
  else if inRanges stackedRanges code then .stacked
  else if code == 0x16D67 then .kiratE
  else if code == 0x16D68 then .kiratAi
  else .other

/-- The columns that a character adds in front of what it is drawn together with, and the
state in front of it. -/
def pair? (code : Nat) : Ahead → Option (Int × Ahead)
  | .alef =>
      if inRanges lamRanges code then some (0, .other)
      else if inRanges zeroWidthRanges code && !inRanges boundaryRanges code then some (0, .alef)
      else none
  | .lamed true => if code == 0x5D0 then some (0, .other) else none
  | .stacked => if code == 0x17D2 then some (-1, .other) else none
  | .ya true => if code == 0x1A17 then some (0, .vowelYa) else none
  | .vowelYa => if code == 0x1A15 then some (0, .other) else none
  | .tifinagh joined =>
      if code == 0x2D7F then some (1, .tifinaghJoiner)
      else if joined && isTifinagh code then some (0, .other)
      else none
  | .tifinaghJoiner => if isTifinagh code then some (-1, .other) else none
  | .toneLetter => if 0xA4F8 ≤ code && code ≤ 0xA4FB then some (0, .other) else none
  | .orkhonI true => if code == 0x10C32 then some (0, .other) else none
  | .kiratE =>
      if code == 0x16D63 || code == 0x16D69 then some (0, .other)
      else if code == 0x16D67 then some (0, .kiratAi)
      else none
  | .kiratAi => if code == 0x16D63 then some (0, .other) else none
  | .skinTone =>
      if inRanges modifierBaseRanges code then some (0, .picture)
      else if isJoiner code then some (0, .joiner)
      else none
  | .picture => if isJoiner code then some (0, .joiner) else none
  | .flagLetter => if isFlagLetter code then some (1, .flagLetters) else none
  | .flagLetters =>
      if isFlagLetter code then some (1, .flagLetters)
      else if isJoiner code then some (0, .joiner)
      else none
  | .joiner =>
      if code == 0x20E3 then some (0, .joinedFrame)
      else if isFlagLetter code then some (1, .joinedFlagLetter)
      else if isSkinTone code then some (0, .skinTone)
      else if code == 0xE007F then some (0, .joinedTags 0 0)
      else if inRanges pictureRanges code then some (0, .picture)
      else none
  | .joinedFlagLetter => if isFlagLetter code then some (-1, .joinedFlagLetters true) else none
  | .joinedFlagLetters even =>
      if isFlagLetter code then some (if even then 3 else -1, .joinedFlagLetters !even)
      else if isJoiner code then some (0, .joiner)
      else none
  | .joinedTags letters digits =>
      if 0xE0061 ≤ code && code ≤ 0xE007A && letters < 6 && digits == 0 then
        some (0, .joinedTags (letters + 1) 0)
      else if 0xE0030 ≤ code && code ≤ 0xE0039 && digits < 3 && (letters ≤ 4 || 0 < digits) then
        some (0, .joinedTags letters (digits + 1))
      else if code == 0x1F3F4 && (digits == 3 || (digits == 0 && 3 ≤ letters)) then
        some (0, .picture)
      else none
  | _ => none

/-- The columns that a character adds, and what it is to the one in front of it. -/
def place (c : Char) (ahead : Ahead) : Int × Ahead × Option Selector :=
  let code := c.toNat
  if code ≤ 0xA0 then
    if c == '\n' then (1, .lineFeed, none)
    else if c == '\r' && ahead == .lineFeed then (0, .other, none)
    else (1, .other, none)
  else
    match selector? c with
    | some selector => (0, selector.keep ahead, some selector)
    | none =>
        if ahead.isLigature && ahead != .alef && inRanges transparentRanges code then
          (0, if isJoiner code then ahead.join else ahead, none)
        else
          match pair? code ahead with
          | some (columns, before) => (columns, before, none)
          | none => (codeWidth code, aheadOf code, none)

/-- The columns of a character with a form that the selector behind it chooses. -/
def select? (c : Char) (ahead : Ahead) : Selector → Option (Int × Ahead)
  | .drawn =>
      if inRanges variationRanges c.toNat then
        some (if ahead.isJoined then 0 else 2, .picture)
      else none
  | .written => if hasWrittenForm c.toNat then some (1, .other) else none
  | .wide => if isWideQuote c.toNat then some (2, .other) else none

/-- Counts the columns of a line from its end: their number, and what stands in front. -/
def measure : List Char → Int × Ahead × Option Selector
  | [] => (0, .other, none)
  | c :: rest =>
      let (columns, ahead, selector) := measure rest
      match selector.bind (select? c ahead) with
      | some (own, before) => (columns + own, before, none)
      | none =>
          let behind := if ahead.isLigature || selector.isNone then ahead else .other
          let (own, before, chosen) := place c behind
          (columns + own, before, chosen)

/-- The number of columns of a line. -/
def width (line : List Char) : Nat :=
  (measure line).1.toNat

end ScalarSql.Text
