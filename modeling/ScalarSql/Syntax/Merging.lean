import ScalarSql.Syntax.Definition

/-!
# Changes of rows

Deletions, merges and copies of rows.  It only matters whether such a statement is well
formed.
-/

set_option autoImplicit false

namespace ScalarSql.Syntax.Merging

/-! ## Deletions -/

/-- A deletion of rows, after its keyword. -/
def deletion (nested : Nested) : TokenParser Unit := do
  let _ ← Phrase.keyword "FROM"
  let _ ← Phrase.list (FromItem.parser nested)
  let _ ← Phrase.after "USING" (Phrase.list (FromItem.parser nested))
  let _ ← Phrase.after "WHERE" nested.whole
  let _ ← Modification.returning nested
  let _ ← Phrase.afterAll ["ORDER", "BY"] (Phrase.list (Term.orderItem nested))
  if ← Phrase.keyword "LIMIT" then
    if !(← Phrase.keyword "ALL") then
      let _ ← nested.whole

/-! ## Merges -/

/-- What is done with rows for which there is no partner in the table. -/
def missingAction (nested : Nested) : TokenParser Unit := do
  Phrase.needKeyword "INSERT"
  let _ ← Column.optionalNames
  if !(← Phrase.keyword "ROW") then
    Phrase.needKeyword "VALUES"
    let _ ← Relation.valueRows nested

/-- What is done with rows of the table. -/
def presentAction (nested : Nested) : TokenParser Unit := do
  match ← Phrase.needOneOf ["UPDATE", "DELETE"] with
  | "UPDATE" => do
      Phrase.needKeyword "SET"
      let _ ← Modification.assignments nested
  | _ => pure ()

/-- One case of a merge. -/
def mergeCase (nested : Nested) : TokenParser Unit := do
  Phrase.needKeyword "WHEN"
  let unmatched ← Phrase.keyword "NOT"
  Phrase.needKeyword "MATCHED"
  let bySource ← if unmatched then Phrase.keywords ["BY", "SOURCE"] else pure false
  if unmatched && !bySource then
    let _ ← Phrase.keywords ["BY", "TARGET"]
  let _ ← Phrase.after "AND" nested.whole
  Phrase.needKeyword "THEN"
  if unmatched && !bySource then missingAction nested else presentAction nested

/-- A merge of rows into a table, after its keyword.  Its cases reach to the end of the
statement. -/
def merge (nested : Nested) : TokenParser Unit := do
  let _ ← Phrase.keyword "INTO"
  let _ ← Relation.parser nested
  Phrase.needKeyword "USING"
  let _ ← Relation.parser nested
  Phrase.needKeyword "ON"
  let _ ← nested.whole
  let _ ← Parser.many (do
    match ← Parser.peek? with
    | none | some (.sign ";") => pure none
    | some _ => some <$> mergeCase nested)

/-! ## Copies -/

/-- A text of one character, which takes one byte. -/
def singleCharacter : TokenParser Unit := do
  let text ← Phrase.textValue
  if text.utf8ByteSize == 1 then pure () else Parser.fail

/-- Takes a truth value, if one comes next. -/
def truthValue : TokenParser Unit := do
  let _ ← Phrase.oneOf ["TRUE", "FALSE"]

/-- An option of a copy. -/
def copyOption : TokenParser Unit := do
  match ← Phrase.needOneOf ["FORMAT", "FREEZE", "DELIMITER", "NULL", "HEADER", "QUOTE", "ESCAPE",
      "FORCE_QUOTE", "FORCE_NOT_NULL", "FORCE_NULL", "ENCODING"] with
  | "FORMAT" =>
      let _ ← Phrase.name
  | "FREEZE" | "HEADER" => truthValue
  | "DELIMITER" | "QUOTE" | "ESCAPE" => singleCharacter
  | "NULL" | "ENCODING" =>
      let _ ← Phrase.textValue
  | _ =>
      let _ ← Phrase.nameList

/-- An option of a copy of separated values, if one comes next. -/
def separatedOption : TokenParser (Option Unit) := do
  if ← Phrase.keyword "HEADER" then pure (some ())
  else if ← Phrase.keywords ["FORCE", "NOT", "NULL"] then Phrase.list Phrase.name *> pure (some ())
  else if ← Phrase.keywords ["FORCE", "QUOTE"] then Phrase.list Phrase.name *> pure (some ())
  else
    match ← Phrase.oneOf ["QUOTE", "ESCAPE"] with
    | some _ => Phrase.keyword "AS" *> some <$> singleCharacter
    | none => pure none

/-- An option of a copy without parentheses. -/
def bareOption : TokenParser Unit := do
  match ← Phrase.needOneOf ["BINARY", "DELIMITER", "NULL", "CSV"] with
  | "DELIMITER" => Phrase.keyword "AS" *> singleCharacter
  | "NULL" =>
      let _ ← Phrase.keyword "AS"
      let _ ← Phrase.textValue
  | "CSV" =>
      let _ ← Parser.many (do
        match ← Parser.attempt separatedOption with
        | some found => pure found
        | none => pure none)
  | _ => pure ()

/-- The rows of a copy in place, up to a backslash and a point. -/
def rowsInPlace : TokenParser Unit := do
  Phrase.needSign ";"
  let _ ← Parser.iterate (fun ended => do
    if ended then pure none
    else
      let _ ← Parser.takeWhile fun token => !token.isSign "\\"
      if ← Phrase.sign "\\" then
        if ← Phrase.sign "." then pure (some true)
        else
          let _ ← Parser.accept fun _ => true
          pure (some false)
      else pure none) false

/-- What is copied, and whether it is a query. -/
def copySource (nested : Nested) : TokenParser Bool := do
  if ← Phrase.isSignNext "(" then
    let _ ← nested.enclosedQuery
    pure true
  else
    let _ ← Phrase.path
    let _ ← Column.optionalNames
    pure false

/-- A copy of rows to a file or from one, after its keyword. -/
def copy (nested : Nested) : TokenParser Unit := do
  let isQuery ← copySource nested
  if (← Phrase.needOneOf ["FROM", "TO"]) == "FROM" && isQuery then Parser.fail
  let place ← Phrase.oneOf ["STDIN", "STDOUT", "PROGRAM"]
  if place.isNone || place == some "PROGRAM" then
    let _ ← Phrase.textValue
  let _ ← Phrase.keyword "WITH"
  if ← Phrase.isSignNext "(" then
    let _ ← Phrase.inParens (Phrase.list copyOption)
  let _ ← Parser.many (Parser.attempt bareOption)
  if place == some "STDIN" then rowsInPlace

end ScalarSql.Syntax.Merging
