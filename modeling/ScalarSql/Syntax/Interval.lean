import ScalarSql.Syntax.TypeName

/-!
# Intervals of time

An interval is a value, often a text, with the parts of a date or a time that it counts,
all of which can be left out.
-/

set_option autoImplicit false

namespace ScalarSql.Syntax.Term

/-- A number in parentheses behind a part of a time, in its spelling. -/
def intervalDigits : TokenParser String := do
  let digits ← TypeName.size
  pure (if digits == "" then "" else " " ++ digits)

/-- The last part that an interval is counted in. -/
def intervalEnd : TokenParser String := do
  if ← Phrase.keyword "TO" then
    let last ← Phrase.temporalField
    let digits ← if last == "SECOND" then intervalDigits else pure ""
    pure (" TO " ++ last ++ digits)
  else pure ""

/-- The parts that an interval is counted in.  Seconds have digits behind the point. -/
def intervalUnits : TokenParser String := do
  let unit ← do
    if ← Phrase.isNext Keyword.temporalUnits then some <$> Phrase.temporalField else pure none
  let shownUnit := unit.elim "" (" " ++ ·)
  if unit == some "SECOND" then
    let digits ← TypeName.precision ", "
    pure (shownUnit ++ (if digits == "" then "" else " " ++ digits))
  else
    let digits ← intervalDigits
    let last ← intervalEnd
    pure (shownUnit ++ digits ++ last)

/-- An interval of time behind its keyword, if it has one. -/
def interval (value : TokenParser Term) : TokenParser Term := do
  let amount ← value
  let units ← intervalUnits
  pure (.other ("INTERVAL " ++ amount.text ++ units))

/-- A term with the collation that may follow it. -/
def collated (term : Term) : TokenParser Term := do
  if ← Phrase.keyword "COLLATE" then
    let collation ← Phrase.path
    pure (.other (term.text ++ " COLLATE " ++ Name.pathSpelling collation))
  else pure term

end ScalarSql.Syntax.Term
