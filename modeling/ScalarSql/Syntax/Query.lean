import ScalarSql.Syntax.Modification

/-!
# Reading queries

A query combines select clauses, lists of values and further queries, orders the rows and
limits their number.  `Nested.ofDepth` ties terms and queries together: each level of
nesting takes one from a given depth, and what comes at depth zero nests too deep.
-/

set_option autoImplicit false

namespace ScalarSql.Syntax

namespace Query

/-! ## Bodies -/

/-- The rows of a table by its name, after the keyword.  Two more tokens are taken, which
give the table when the first one gives its schema. -/
def wholeTable : TokenParser String := fun input =>
  match input with
  | .word schema _ :: .sign "." :: .word table _ :: rest =>
      .ok ("TABLE " ++ schema ++ "." ++ table, rest)
  | .word _ _ :: .sign "." :: _ => .error .mismatch
  | .word table _ :: rest => .ok ("TABLE " ++ table, rest.drop 2)
  | _ => .error .mismatch

/-- A body without set operations, and its spelling. -/
def simpleBody (nested : Nested) : TokenParser (QueryBody × String) := do
  if ← Phrase.keyword "SELECT" then
    let (select, spelling) ← Select.parser nested
    pure (.select select, spelling)
  else if ← Phrase.isSignNext "(" then
    let query ← nested.enclosedQuery
    pure (.other, "(" ++ query.spelling ++ ")")
  else if ← Phrase.keyword "VALUES" then
    let rows ← Relation.valueRows nested
    pure (.other, rows)
  else
    Phrase.needKeyword "TABLE"
    let table ← wholeTable
    pure (.other, table)

/-- What a set operation does with rows that occur more than once, and how it finds the
columns that belong together. -/
def setQuantifier : TokenParser String := do
  if ← Phrase.keywords ["DISTINCT", "BY", "NAME"] then pure " DISTINCT BY NAME"
  else if ← Phrase.keywords ["BY", "NAME"] then pure " BY NAME"
  else if ← Phrase.keywords ["ALL", "BY", "NAME"] then pure " ALL BY NAME"
  else
    let word ← Phrase.oneOf ["ALL", "DISTINCT"]
    pure (word.elim "" (" " ++ ·))

/-- Bodies with set operations between them, which group to the left. -/
def chain (operations : List String) (operand : TokenParser (QueryBody × String)) :
    TokenParser (QueryBody × String) := do
  let first ← operand
  let rest ← Parser.many (do
    match ← Phrase.oneOf operations with
    | none => pure none
    | some word =>
        let quantifier ← setQuantifier
        let right ← operand
        pure (some (" " ++ word ++ quantifier ++ " " ++ right.2)))
  if rest.isEmpty then pure first else pure (.other, first.2 ++ String.join rest)

/-- A body with its spelling.  Intersections bind tighter than the other operations. -/
def bodyParser (nested : Nested) : TokenParser (QueryBody × String) :=
  chain ["UNION", "EXCEPT"] (chain ["INTERSECT"] (simpleBody nested))

/-! ## Limits -/

/-- The limit and the offset of a query, and the unit that is written after the offset. -/
structure Limits where
  limit : Option Term
  offset : Option Term
  unit : String

namespace Limits

/-- A limit, if it is written next; `ALL` is no limit. -/
def readLimit (nested : Nested) (limits : Limits) : TokenParser Limits := do
  if ← Parser.provided limits.limit.isNone (Phrase.keyword "LIMIT") then
    if ← Phrase.keyword "ALL" then pure limits
    else
      let count ← nested.whole
      pure { limits with limit := some count }
  else pure limits

/-- An offset, if it is written next. -/
def readOffset (nested : Nested) (limits : Limits) : TokenParser Limits := do
  if ← Parser.provided limits.offset.isNone (Phrase.keyword "OFFSET") then
    let count ← nested.whole
    let unit := (← Phrase.oneOf ["ROW", "ROWS"]).elim "" (" " ++ ·)
    pure { limits with offset := some count, unit }
  else pure limits

/-- The number after a comma: it is the limit, and the number in front of the comma is the
offset. -/
def readSecond (nested : Nested) (limits : Limits) : TokenParser Limits := do
  if ← Parser.provided (limits.limit.isSome && limits.offset.isNone) (Phrase.sign ",") then
    let count ← nested.whole
    pure { limit := some count, offset := limits.limit, unit := "" }
  else pure limits

/-- The clauses that may come next, each at most once. -/
def step (nested : Nested) (limits : Limits) : TokenParser Limits := do
  let withLimit ← readLimit nested limits
  let withOffset ← readOffset nested withLimit
  readSecond nested withOffset

/-- The limit and the offset, in either order. -/
def parser (nested : Nested) : TokenParser Limits := do
  let first ← step nested { limit := none, offset := none, unit := "" }
  step nested first

/-- The spelling of the limits. -/
def text (limits : Limits) : String :=
  limits.limit.elim "" (fun term => " LIMIT " ++ term.text)
    ++ limits.offset.elim "" (fun term => " OFFSET " ++ term.text ++ limits.unit)

end Limits

/-- The rows that are fetched, after the keyword. -/
def fetch : TokenParser String := do
  let _ ← Phrase.needOneOf ["FIRST", "NEXT"]
  let quantity ← do
    if (← Phrase.oneOf ["ROW", "ROWS"]).isSome then pure ""
    else
      let count ← Phrase.literal
      let percent ← Phrase.keyword "PERCENT"
      let _ ← Phrase.needOneOf ["ROW", "ROWS"]
      pure (" " ++ count.spelling ++ (if percent then " PERCENT" else ""))
  if ← Phrase.keyword "ONLY" then pure (" FETCH FIRST" ++ quantity ++ " ROWS ONLY")
  else
    Phrase.needKeywords ["WITH", "TIES"]
    pure (" FETCH FIRST" ++ quantity ++ " ROWS WITH TIES")

/-! ## Locks and documents -/

/-- A lock on the rows, after its first keyword. -/
def lock : TokenParser String := do
  let kind ← Phrase.needOneOf ["UPDATE", "SHARE"]
  let table ← Phrase.after "OF" Phrase.path
  let patience ← do
    if ← Phrase.keyword "NOWAIT" then pure " NOWAIT"
    else if ← Phrase.keywords ["SKIP", "LOCKED"] then pure " SKIP LOCKED"
    else pure ""
  pure (" FOR " ++ kind ++ table.elim "" (fun name => " OF " ++ Name.pathSpelling name)
    ++ patience)

/-- A text in parentheses behind a word, in its spelling. -/
def labelText (word : String) : TokenParser String := do
  let text ← Phrase.inParens Phrase.textValue
  pure (word ++ "('" ++ text ++ "')")

/-- How elements of a document are named: by an optional text behind a word. -/
def elementNames (word : String) : TokenParser String := do
  if ← Phrase.isSignNext "(" then labelText word else pure word

/-- Options of a document, each behind a comma, with the words that they start with.  An
option that is given twice counts once, and a comma without an option is skipped. -/
def documentOptions (option : TokenParser (Option (String × String))) :
    TokenParser (List (String × String)) :=
  Parser.iterate (fun (found : List (String × String)) => do
    if ← Phrase.sign "," then
      match ← option with
      | some (word, text) => pure (some ((word, text) :: found.filter (·.1 != word)))
      | none => pure (some found)
    else pure none) []

/-- The spelling of options in a fixed order. -/
def optionsText (order : List String) (found : List (String × String)) : String :=
  String.join (order.filterMap fun word => (found.lookup word).map (", " ++ ·))

/-- An option of a document in markup. -/
def markupOption : TokenParser (Option (String × String)) := do
  match ← Phrase.oneOf ["ELEMENTS", "BINARY", "ROOT", "TYPE"] with
  | some "BINARY" => Phrase.needKeyword "BASE64" *> pure (some ("BINARY", "BINARY BASE64"))
  | some "ROOT" =>
      let text ← labelText "ROOT"
      pure (some ("ROOT", text))
  | some word => pure (some (word, word))
  | none => pure none

/-- The rows as a document in markup, after the keyword. -/
def markup : TokenParser String := do
  let mode ← Phrase.needOneOf ["RAW", "AUTO", "EXPLICIT", "PATH"]
  let names ← if mode == "RAW" || mode == "PATH" then elementNames mode else pure mode
  let options ← documentOptions markupOption
  pure (" FOR XML " ++ names ++ optionsText ["BINARY", "TYPE", "ROOT", "ELEMENTS"] options)

/-- An option of a document of members. -/
def memberOption : TokenParser (Option (String × String)) := do
  match ← Phrase.oneOf ["ROOT", "INCLUDE_NULL_VALUES", "WITHOUT_ARRAY_WRAPPER"] with
  | some "ROOT" =>
      let text ← labelText "ROOT"
      pure (some ("ROOT", text))
  | some word => pure (some (word, word))
  | none => pure none

/-- The rows as a document of members, after the keyword. -/
def members : TokenParser String := do
  let mode ← Phrase.needOneOf ["AUTO", "PATH"]
  let options ← documentOptions memberOption
  pure (" FOR JSON " ++ mode
    ++ optionsText ["ROOT", "INCLUDE_NULL_VALUES", "WITHOUT_ARRAY_WRAPPER"] options)

/-- What the rows are read for: locks, and at the end a document. -/
def purposes : TokenParser String := do
  let found ← Parser.iterate (fun (text, isLast) => do
    if isLast then pure none
    else if ← Phrase.keyword "FOR" then
      match ← Phrase.oneOf ["XML", "JSON", "BROWSE"] with
      | some "XML" => (fun form => some (text ++ form, true)) <$> markup
      | some "JSON" => (fun form => some (text ++ form, true)) <$> members
      | some _ => pure (some (text ++ " FOR BROWSE", true))
      | none => (fun form => some (text ++ form, false)) <$> lock
    else pure none) ("", false)
  pure found.1

/-- The format that the rows are written in, if it is given. -/
def outputFormat : TokenParser String := do
  if ← Phrase.keyword "FORMAT" then
    if ← Phrase.keyword "NULL" then pure " FORMAT NULL"
    else
      let name ← Phrase.name
      pure (" FORMAT " ++ name.spelling)
  else pure ""

/-! ## Orders -/

/-- A column whose values are made up for rows that are filled in. -/
def interpolation (nested : Nested) : TokenParser String := do
  let column ← Phrase.name
  let value ← Phrase.after "AS" nested.whole
  pure (column.spelling ++ value.elim "" (fun term => " AS " ++ term.text))

/-- The columns whose values are made up for rows that are filled in. -/
def interpolations (nested : Nested) : TokenParser String := do
  if ← Phrase.keyword "INTERPOLATE" then
    if ← Phrase.sign "(" then
      let found ← Phrase.listUntil ")" (interpolation nested)
      pure (" INTERPOLATE (" ++ ", ".intercalate found ++ ")")
    else pure " INTERPOLATE"
  else pure ""

/-- The keys of the order of a query and the spelling of the clause. -/
def orderClause (nested : Nested) : TokenParser (List OrderItem × String) := do
  if ← Phrase.keywords ["ORDER", "BY"] then
    let items ← Phrase.list (Term.orderItem nested)
    let filled ← interpolations nested
    pure (items, " ORDER BY " ++ ", ".intercalate (items.map OrderItem.text) ++ filled)
  else pure ([], "")

/-! ## Queries with names -/

/-- A query with a name that the main query may use. -/
def namedQuery (nested : Nested) : TokenParser String := do
  let name ← Phrase.name
  let columns ← do
    if ← Phrase.isSignNext "(" then
      let names ← Phrase.nameList
      pure (" " ++ Phrase.nameListText names)
    else pure ""
  Phrase.needKeyword "AS"
  let query ← nested.enclosedQuery
  let source ← Phrase.after "FROM" Phrase.name
  pure (name.spelling ++ columns ++ " AS (" ++ query.spelling ++ ")"
    ++ source.elim "" (fun found => " FROM " ++ found.spelling))

/-- The queries with names in front of the main one. -/
def namedQueries (nested : Nested) : TokenParser String := do
  if ← Phrase.keyword "WITH" then
    let recursive ← Phrase.keyword "RECURSIVE"
    let queries ← Phrase.list (namedQuery nested)
    pure ("WITH " ++ (if recursive then "RECURSIVE " else "") ++ ", ".intercalate queries ++ " ")
  else pure ""

/-! ## Queries -/

/-- The clauses of a query after the queries with names. -/
def mainQuery (nested : Nested) (definitions : String) : TokenParser Query := do
  let (body, bodyText) ← bodyParser nested
  let (order, orderText) ← orderClause nested
  let limits ← Limits.parser nested
  let groups ← Phrase.after "BY" nested.terms
  let settings ← Phrase.settings
  let fetched ← Phrase.after "FETCH" fetch
  let purposeText ← purposes
  let formatText ← outputFormat
  pure
    { body, order
      limit := limits.limit
      offset := limits.offset
      spelling := definitions ++ bodyText ++ orderText ++ limits.text
        ++ groups.elim "" (fun terms => " BY " ++ Term.listText terms)
        ++ settings.elim "" (" " ++ ·) ++ fetched.getD "" ++ purposeText ++ formatText }

/-- A query. -/
def parser (nested : Nested) : TokenParser Query := do
  let definitions ← namedQueries nested
  let changed ← do
    if ← Phrase.keyword "INSERT" then (fun found => some found.2) <$> Modification.insertion nested
    else if ← Phrase.keyword "UPDATE" then some <$> Modification.update nested
    else pure none
  match changed with
  | some spelling =>
      pure
        { body := .other, order := [], limit := none, offset := none
          spelling := definitions ++ spelling }
  | none => mainQuery nested definitions

end Query

namespace Nested

/-- The parsers for what is nested within a term or a query, given the parsers for what
these contain in turn, outside and inside of the links of a hierarchy. -/
def around (inner linked : Nested) (linking : Bool) : Nested where
  term := Term.parser inner
  link := Term.parser linked
  query := Query.parser inner
  linking

/-- The parsers for what nests too deep. -/
def exhausted (linking : Bool) : Nested where
  term := fun _ => Parser.tooDeep
  link := fun _ => Parser.tooDeep
  query := Parser.tooDeep
  linking

/-- The parsers for terms and queries that nest at most `depth` levels deep, outside and
inside of the links of a hierarchy. -/
def pairOfDepth : Nat → Nested × Nested
  | 0 => (exhausted false, exhausted true)
  | depth + 1 =>
      let (inner, linked) := pairOfDepth depth
      (around inner linked false, around linked linked true)

/-- The parsers for terms and queries that nest at most `depth` levels deep. -/
def ofDepth (depth : Nat) : Nested := (pairOfDepth depth).1

end Nested

end ScalarSql.Syntax
