import ScalarSql.Syntax.Definition

/-!
# Changes and removals of objects

What follows `ALTER`, `DROP` and `TRUNCATE`.  It only matters whether the statement is well
formed and what kind of object it is about.
-/

set_option autoImplicit false

namespace ScalarSql.Syntax.Alteration

open Definition (ifExists ifNotExists onCluster)

/-! ## Changes of tables -/

/-- The values that make up a partition. -/
def partition (nested : Nested) : TokenParser Unit := do
  let _ ← Phrase.inParens nested.terms

/-- A partition or a part of one. -/
def partitionOrPart (nested : Nested) : TokenParser Unit := do
  let _ ← Phrase.needOneOf ["PARTITION", "PART"]
  let _ ← nested.whole

/-- The place of a column among the others, if it is given. -/
def columnPlace : TokenParser Unit := do
  if !(← Phrase.keyword "FIRST") then
    let _ ← Phrase.after "AFTER" Phrase.name

/-- The items of a stored selection. -/
def projection (nested : Nested) : TokenParser Unit := do
  ifNotExists
  let _ ← Phrase.name
  Phrase.needSign "("
  Phrase.needKeyword "SELECT"
  let _ ← Phrase.list (SelectItem.parser nested)
  let _ ← Select.groupClause nested
  let _ ← Query.orderClause nested
  Phrase.needSign ")"

/-- The name of a stored selection and the partition that is meant. -/
def projectionPart : TokenParser Unit := do
  ifExists
  let _ ← Phrase.name
  let _ ← Phrase.afterAll ["IN", "PARTITION"] Phrase.name

/-- What is added to a table, after the keyword. -/
def addition (nested : Nested) : TokenParser Unit := do
  if !(← Definition.tableRule nested) then
    if ← Phrase.keyword "PROJECTION" then projection nested
    else
      ifNotExists
      let partitions ← Parser.many (Phrase.after "PARTITION" (partition nested))
      if partitions.isEmpty then
        let _ ← Phrase.keyword "COLUMN"
        ifNotExists
        Definition.column nested
        columnPlace

/-- A new name for a table or a column, after the keyword. -/
def newName : TokenParser Unit := do
  if ← Phrase.keyword "TO" then
    let _ ← Phrase.path
  else
    let _ ← Phrase.keyword "COLUMN"
    let _ ← Phrase.name
    Phrase.needKeyword "TO"
    let _ ← Phrase.name

/-- What is removed from a table, after the keyword. -/
def removal (nested : Nested) : TokenParser Unit := do
  if ← Phrase.keywords ["IF", "EXISTS", "PARTITION"] then partition nested
  else if ← Phrase.keyword "PARTITION" then partition nested
  else if ← Phrase.keyword "CONSTRAINT" then
    ifExists
    let _ ← Phrase.name
    let _ ← Phrase.keyword "CASCADE"
  else if ← Phrase.keywords ["PRIMARY", "KEY"] then pure ()
  else if ← Phrase.keyword "PROJECTION" then
    ifExists
    let _ ← Phrase.name
  else
    let _ ← Phrase.keyword "COLUMN"
    ifExists
    let _ ← Phrase.name
    let _ ← Phrase.keyword "CASCADE"

/-- A rule or a trigger that is switched on or off, after the keyword. -/
def switching (modes : List String) : TokenParser Unit := do
  if !(← Phrase.keywords ["ROW", "LEVEL", "SECURITY"]) then
    let _ ← Phrase.oneOf modes
    let _ ← Phrase.needOneOf ["RULE", "TRIGGER"]
    let _ ← Phrase.name

/-- The type, the rules and the place of a changed column. -/
def changedColumn (nested : Nested) : TokenParser Unit := do
  let _ ← TypeName.spelled nested
  let _ ← Parser.many (Column.rule nested)
  columnPlace

/-- A generated number of a column, after the first keyword. -/
def generation : TokenParser Unit := do
  if !(← Phrase.keyword "ALWAYS") then
    let _ ← Phrase.keywords ["BY", "DEFAULT"]
  Phrase.needKeywords ["AS", "IDENTITY"]
  if ← Phrase.sign "(" then
    let _ ← Column.sequenceOptions
    Phrase.needSign ")"

/-- A change of a column, after the keyword. -/
def columnChange (nested : Nested) : TokenParser Unit := do
  let _ ← Phrase.keyword "COLUMN"
  let _ ← Phrase.name
  if ← Phrase.keywords ["SET", "NOT", "NULL"] then pure ()
  else if ← Phrase.keywords ["DROP", "NOT", "NULL"] then pure ()
  else if ← Phrase.keywords ["SET", "DEFAULT"] then
    let _ ← nested.whole
  else if ← Phrase.keywords ["DROP", "DEFAULT"] then pure ()
  else if ← Phrase.keywords ["SET", "DATA", "TYPE"] then
    let _ ← TypeName.spelled nested
  else
    Phrase.needKeywords ["ADD", "GENERATED"]
    generation

/-- A partition that takes the place of another one, after the keyword. -/
def partitionRenaming (nested : Nested) : TokenParser Unit := do
  partition nested
  Phrase.needKeywords ["RENAME", "TO", "PARTITION"]
  partition nested

/-- A copy of a partition that is kept or given up, after the keyword. -/
def freezing (nested : Nested) : TokenParser Unit := do
  partitionOrPart nested
  let _ ← Phrase.afterAll ["WITH", "NAME"] Phrase.name

/-- A change of a table, or the place of its files at the end. -/
def tableChange (nested : Nested) : TokenParser Unit := do
  if ← Phrase.keywords ["OWNER", "TO"] then Definition.owner
  else if ← Phrase.keywords ["SWAP", "WITH"] then
    let _ ← Phrase.path
  else if ← Phrase.keywords ["CLEAR", "PROJECTION"] then projectionPart
  else if ← Phrase.keywords ["MATERIALIZE", "PROJECTION"] then projectionPart
  else if ← Phrase.keywords ["SET", "TBLPROPERTIES"] then
    if (← Column.namedOptions nested) == "()" then Parser.fail
  else
    match ← Phrase.needOneOf ["ADD", "RENAME", "DISABLE", "ENABLE", "DROP", "PARTITION", "CHANGE",
        "MODIFY", "ALTER", "ATTACH", "DETACH", "FREEZE", "UNFREEZE"] with
    | "ADD" => addition nested
    | "RENAME" => newName
    | "DISABLE" => switching []
    | "ENABLE" => switching ["ALWAYS", "REPLICA"]
    | "DROP" => removal nested
    | "PARTITION" => partitionRenaming nested
    | "CHANGE" =>
        let _ ← Phrase.keyword "COLUMN"
        let _ ← Phrase.name
        let _ ← Phrase.name
        changedColumn nested
    | "MODIFY" =>
        let _ ← Phrase.keyword "COLUMN"
        let _ ← Phrase.name
        changedColumn nested
    | "ALTER" => columnChange nested
    | "ATTACH" | "DETACH" => partitionOrPart nested
    | _ => freezing nested

/-- The changes of a table, after the keyword. -/
def table (nested : Nested) : TokenParser Unit := do
  ifExists
  let _ ← Phrase.keyword "ONLY"
  let _ ← Phrase.path
  onCluster
  let _ ← Phrase.list (tableChange nested)
  if ← Phrase.keyword "LOCATION" then
    let _ ← Phrase.name
  else
    let _ ← Phrase.afterAll ["SET", "LOCATION"] Phrase.name

/-! ## Changes of other objects -/

/-- A change of a view, after the keyword. -/
def view (nested : Nested) : TokenParser Unit := do
  let _ ← Phrase.path
  let _ ← Column.optionalNames
  Definition.optionsAfter nested "WITH"
  Phrase.needKeyword "AS"
  let _ ← nested.query

/-- A new name for an index, after the keyword. -/
def index : TokenParser Unit := do
  let _ ← Phrase.path
  Phrase.needKeywords ["RENAME", "TO"]
  let _ ← Phrase.path

/-- A change of a policy, after the keyword. -/
def policy (nested : Nested) : TokenParser Unit := do
  let _ ← Phrase.name
  Phrase.needKeyword "ON"
  let _ ← Phrase.path
  if ← Phrase.keywords ["RENAME", "TO"] then
    let _ ← Phrase.name
  else Definition.policyTerms nested

/-- A change of an object, after its keyword: how messages name it. -/
def parser (nested : Nested) : TokenParser String := do
  match ← Phrase.needOneOf ["TABLE", "VIEW", "INDEX", "POLICY"] with
  | "TABLE" => table nested *> pure "AlterTable"
  | "VIEW" => view nested *> pure "AlterView"
  | "INDEX" => index *> pure "AlterIndex"
  | _ => policy nested *> pure "AlterPolicy"

/-! ## Removals -/

/-- Whether what depends on an object goes with it, if it is said. -/
def dependents : TokenParser Unit := do
  let _ ← Phrase.oneOf ["CASCADE", "RESTRICT"]

/-- A removal of objects of one kind, after the keyword for it. -/
def objects (word : String) : TokenParser Unit := do
  ifExists
  let _ ← Phrase.list Phrase.path
  let cascade ← Phrase.keyword "CASCADE"
  let restrict ← Phrase.keyword "RESTRICT"
  let purge ← Phrase.keyword "PURGE"
  if cascade && restrict then Parser.fail
  else if word == "ROLE" && (cascade || restrict || purge) then Parser.fail
  else pure ()

/-- A removal of functions or procedures, after the keyword. -/
def functions (nested : Nested) : TokenParser Unit := do
  ifExists
  let _ ← Phrase.list (Definition.functionName nested)
  dependents

/-- A removal of something that belongs to a table, after the keyword. -/
def tablePart (name : TokenParser Unit) : TokenParser Unit := do
  ifExists
  name
  Phrase.needKeyword "ON"
  let _ ← Phrase.path
  dependents

/-- A removal of objects, after its keyword: how messages name it. -/
def removalOfObjects (nested : Nested) : TokenParser String := do
  let _ ← Phrase.keyword "TEMPORARY"
  match ← Phrase.needOneOf ["TABLE", "VIEW", "INDEX", "ROLE", "SCHEMA", "DATABASE", "SEQUENCE",
      "STAGE", "TYPE", "FUNCTION", "POLICY", "PROCEDURE", "SECRET", "TRIGGER"] with
  | "FUNCTION" => functions nested *> pure "DropFunction"
  | "PROCEDURE" => functions nested *> pure "DropProcedure"
  | "POLICY" => tablePart (Phrase.name *> pure ()) *> pure "DropPolicy"
  | "TRIGGER" => tablePart (Phrase.path *> pure ()) *> pure "DropTrigger"
  | "SECRET" => do
      ifExists
      let _ ← Phrase.name
      let _ ← Phrase.after "FROM" Phrase.nameOrToken
      pure "DropSecret"
  | word => objects word *> pure "Drop"

/-- A removal of all rows, after its keyword. -/
def truncation (nested : Nested) : TokenParser Unit := do
  let _ ← Phrase.keyword "TABLE"
  let _ ← Phrase.keyword "ONLY"
  let _ ← Phrase.list Phrase.path
  let _ ← Phrase.after "PARTITION" (partition nested)
  if !(← Phrase.keywords ["RESTART", "IDENTITY"]) then
    let _ ← Phrase.keywords ["CONTINUE", "IDENTITY"]
  dependents
  onCluster

end ScalarSql.Syntax.Alteration
