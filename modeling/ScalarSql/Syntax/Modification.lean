import ScalarSql.Syntax.Select

/-!
# Changes of tables

Insertions and updates can be statements of their own or stand in place of a query.  Of
them only the spelling is kept.
-/

set_option autoImplicit false

namespace ScalarSql.Syntax.Modification

/-! ## Parts of both -/

/-- The items that a change of a table returns. -/
def returning (nested : Nested) : TokenParser String := do
  match ← Phrase.after "RETURNING" (Phrase.list (SelectItem.parser nested)) with
  | some items => pure (" RETURNING " ++ SelectItem.listText items)
  | none => pure ""

/-- A new value for a column, or for several. -/
def assignment (nested : Nested) : TokenParser String := do
  let target ← do
    if ← Phrase.isSignNext "(" then
      let paths ← Phrase.inParens (Phrase.list Phrase.path)
      pure ("(" ++ ", ".intercalate (paths.map Name.pathSpelling) ++ ")")
    else Name.pathSpelling <$> Phrase.path
  Phrase.needSign "="
  let value ← nested.whole
  pure (target ++ " = " ++ value.text)

/-- New values with commas between them. -/
def assignments (nested : Nested) : TokenParser String := do
  let found ← Phrase.list (assignment nested)
  pure (", ".intercalate found)

/-! ## Insertions -/

/-- The formats that files can be stored in. -/
def fileFormats : List String :=
  ["AVRO", "JSONFILE", "ORC", "PARQUET", "RCFILE", "SEQUENCEFILE", "TEXTFILE"]

/-- An insertion into files, after the keyword for their place. -/
def fileInsertion (nested : Nested) (start : String) : TokenParser String := do
  let path ← Phrase.textValue
  let format ← Phrase.afterAll ["STORED", "AS"] (Phrase.needOneOf fileFormats)
  let query ← nested.query
  pure (start ++ " DIRECTORY '" ++ path ++ "'" ++ format.elim "" (" STORED AS " ++ ·) ++ " "
    ++ query.spelling)

/-- Names of columns in parentheses and the partition of the rows, unless a query stands
there. -/
def insertionColumns (nested : Nested) : TokenParser String := do
  let opens ← Phrase.isSignNext "("
  let second := (← Parser.peekAfter? 1).bind Token.keyword?
  if opens && second == some "SELECT" then pure ""
  else
    let columns ← do
      if opens then
        let names ← Phrase.nameList
        pure (Phrase.nameListText names ++ " ")
      else pure ""
    let partition ← Phrase.after "PARTITION" (Phrase.inParens nested.terms)
    pure (columns
      ++ partition.elim "" (fun terms => "PARTITION (" ++ Term.listText terms ++ ") "))

/-- The rows of an insertion. -/
def insertionRows (nested : Nested) : TokenParser String := do
  if ← Phrase.keywords ["DEFAULT", "VALUES"] then pure "DEFAULT VALUES"
  else
    let columns ← insertionColumns nested
    let query ← nested.query
    pure (columns ++ query.spelling)

/-- A name for the new rows, if it is given. -/
def rowName : TokenParser String := do
  match ← Phrase.after "AS" Phrase.path with
  | none => pure ""
  | some path =>
      let columns ← Column.optionalNames
      pure (" AS " ++ Name.pathSpelling path ++ columns)

/-- Which rows a new row can be in conflict with, if it is said. -/
def conflictTarget : TokenParser String := do
  if ← Phrase.keywords ["ON", "CONSTRAINT"] then
    let name ← Phrase.path
    pure (" ON CONSTRAINT " ++ Name.pathSpelling name)
  else if ← Phrase.isSignNext "(" then Phrase.nameListText <$> Phrase.nameList
  else pure ""

/-- What happens to rows that are there already, if it is said. -/
def collision (nested : Nested) : TokenParser String := do
  if ← Phrase.keyword "ON" then
    if ← Phrase.keyword "CONFLICT" then
      let target ← conflictTarget
      Phrase.needKeyword "DO"
      if ← Phrase.keyword "NOTHING" then pure (" ON CONFLICT" ++ target ++ " DO NOTHING")
      else
        Phrase.needKeywords ["UPDATE", "SET"]
        let values ← assignments nested
        let condition ← Phrase.after "WHERE" nested.whole
        pure (" ON CONFLICT" ++ target ++ " DO UPDATE SET " ++ values
          ++ Select.conditionText "WHERE" condition)
    else
      Phrase.needKeywords ["DUPLICATE", "KEY", "UPDATE"]
      let values ← assignments nested
      pure (" ON DUPLICATE KEY UPDATE " ++ values)
  else pure ""

/-- An insertion into a table, after the keywords, which are spelled `start`. -/
def tableInsertion (nested : Nested) (start : String) : TokenParser String := do
  let rows ← insertionRows nested
  let name ← rowName
  let onCollision ← collision nested
  let returned ← returning nested
  pure (start ++ rows ++ name ++ onCollision ++ returned)

/-- How messages name an insertion. -/
inductive InsertionKind where
  | table
  | files
  deriving DecidableEq

/-- An insertion, after its keyword. -/
def insertion (nested : Nested) : TokenParser (InsertionKind × String) := do
  let priority ← Phrase.oneOf ["LOW_PRIORITY", "DELAYED", "HIGH_PRIORITY"]
  let ignore ← Phrase.oneOf ["IGNORE"]
  let mode ← Phrase.oneOf ["INTO", "OVERWRITE"]
  let isLocal ← Phrase.oneOf ["LOCAL"]
  let spaced := fun (word : Option String) => word.elim "" (" " ++ ·)
  if ← Phrase.keyword "DIRECTORY" then
    let overwrite := if mode == some "OVERWRITE" then " OVERWRITE" else ""
    let text ← fileInsertion nested ("INSERT" ++ overwrite ++ spaced isLocal)
    pure (.files, text)
  else
    let table ← Phrase.oneOf ["TABLE"]
    let name ← Phrase.path
    let start := "INSERT" ++ spaced priority ++ spaced ignore ++ spaced mode ++ spaced table
    let text ← tableInsertion nested (start ++ " " ++ Name.pathSpelling name ++ " ")
    pure (.table, text)

/-! ## Updates -/

/-- A change of rows, after its keyword. -/
def update (nested : Nested) : TokenParser String := do
  let table ← FromItem.parser nested
  Phrase.needKeyword "SET"
  let values ← assignments nested
  let source ← Phrase.after "FROM" (FromItem.parser nested)
  let condition ← Phrase.after "WHERE" nested.whole
  let returned ← returning nested
  pure ("UPDATE " ++ table.spelling ++ " SET " ++ values
    ++ source.elim "" (fun item => " FROM " ++ item.spelling)
    ++ Select.conditionText "WHERE" condition ++ returned)

end ScalarSql.Syntax.Modification
