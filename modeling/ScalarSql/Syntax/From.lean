import ScalarSql.Syntax.TableForm

/-!
# Reading from clauses

A from clause lists relations, each with the joins that follow it.  Only a table that
stands alone can be queried; joins, queries in parentheses and calls are read for the sake
of their spelling, and parentheses around a lone relation make no difference.
-/

set_option autoImplicit false

namespace ScalarSql.Syntax

/-- An alias with names for columns. -/
structure RelationAlias where
  name : Name
  columns : List Name

namespace RelationAlias

/-- The spelling of an alias. -/
def text (relationAlias : RelationAlias) : String :=
  " AS " ++ relationAlias.name.spelling
    ++ (if relationAlias.columns.isEmpty then ""
      else " " ++ Phrase.nameListText relationAlias.columns)

/-- An alias, if one comes next. -/
def parser : TokenParser (Option RelationAlias) := do
  match ← Phrase.aliasName Keyword.tableReserved with
  | none => pure none
  | some name =>
      let columns ← do
        if ← Phrase.isSignNext "(" then Phrase.nameList else pure []
      pure (some { name, columns })

end RelationAlias

/-- Rows that a query can read: a table with a name, or something else. -/
structure Relation where
  table : Option (List Name)
  /-- Whether this is a join in parentheses. -/
  isJoin : Bool
  /-- The spelling up to the alias. -/
  before : String
  aliasName : Option RelationAlias
  /-- The spelling from the alias on. -/
  after : String

namespace Relation

/-- The spelling of a relation. -/
def text (relation : Relation) : String :=
  relation.before ++ relation.aliasName.elim "" RelationAlias.text ++ relation.after

/-- What a query reads from a relation. -/
def source (relation : Relation) : Source :=
  match relation.table with
  | some name => .table name (relation.aliasName.map RelationAlias.name)
  | none => .other

/-- A relation that is no table, with the alias that may follow. -/
def unnamed (before : String) : TokenParser Relation := do
  let aliasName ← RelationAlias.parser
  pure { table := none, isJoin := false, before, aliasName, after := "" }

/-! ## Joins -/

/-- The condition of a join. -/
def joinCondition (nested : Nested) (natural : Bool) : TokenParser String := do
  if natural then pure ""
  else if ← Phrase.keyword "ON" then
    let condition ← nested.whole
    pure (" ON " ++ condition.text)
  else if ← Phrase.keyword "USING" then
    let columns ← Phrase.nameList
    pure (" USING" ++ Phrase.nameListText columns)
  else pure ""

/-- The keywords of a join with a condition, as they are spelled in front of the second
relation. -/
def joinKind : TokenParser (Option String) := do
  match ← Phrase.oneOf ["INNER", "JOIN", "LEFT", "RIGHT", "FULL"] with
  | none => pure none
  | some "JOIN" => pure (some "JOIN ")
  | some "INNER" =>
      Phrase.needKeyword "JOIN"
      pure (some "JOIN ")
  | some "FULL" =>
      let _ ← Phrase.keyword "OUTER"
      Phrase.needKeyword "JOIN"
      pure (some "FULL JOIN ")
  | some side =>
      match ← Phrase.needOneOf ["OUTER", "SEMI", "ANTI", "JOIN"] with
      | "JOIN" => pure (some (side ++ " JOIN "))
      | "OUTER" =>
          Phrase.needKeyword "JOIN"
          pure (some (side ++ " JOIN "))
      | kind =>
          Phrase.needKeyword "JOIN"
          pure (some (side ++ " " ++ kind ++ " JOIN "))

/-- The spelling of a join with the relation on its right, if a join comes next. -/
def join (nested : Nested) (relation : TokenParser Relation) : TokenParser (Option String) := do
  let everywhere := if ← Phrase.keyword "GLOBAL" then " GLOBAL " else " "
  if ← Phrase.keyword "CROSS" then
    let kind ← Phrase.needOneOf ["JOIN", "APPLY"]
    let right ← relation
    pure (some (everywhere ++ "CROSS " ++ kind ++ " " ++ right.text))
  else if ← Phrase.keyword "OUTER" then
    Phrase.needKeyword "APPLY"
    let right ← relation
    pure (some (everywhere ++ "OUTER APPLY " ++ right.text))
  else if ← Phrase.keyword "ASOF" then
    Phrase.needKeyword "JOIN"
    let right ← relation
    Phrase.needKeyword "MATCH_CONDITION"
    let nearest ← nested.enclosed
    let condition ← joinCondition nested false
    pure (some (everywhere ++ "ASOF JOIN " ++ right.text ++ " MATCH_CONDITION (" ++ nearest.text
      ++ ")" ++ condition))
  else
    let natural ← Phrase.keyword "NATURAL"
    match ← joinKind with
    | none => if natural then Parser.fail else pure none
    | some kind =>
        let right ← relation
        let condition ← joinCondition nested natural
        pure (some (everywhere ++ (if natural then "NATURAL " else "") ++ kind ++ right.text
          ++ condition))

/-! ## Relations -/

/-- A query in parentheses, after the opening one. -/
def derived (nested : Nested) (before : String) : TokenParser Relation := do
  let query ← nested.query
  Phrase.needSign ")"
  unnamed (before ++ "(" ++ query.spelling ++ ")")

/-- A relation with columns and rows exchanged, if that comes next. -/
def turned (nested : Nested) (relation : Relation) : TokenParser (Option Relation) := do
  match ← Phrase.oneOf ["PIVOT", "UNPIVOT"] with
  | none => pure none
  | some word =>
      let form ← if word == "PIVOT" then TableForm.pivot nested else TableForm.unpivot
      some <$> unnamed (relation.text ++ " " ++ form)

/-- The rows of a `VALUES` list, after the keyword. -/
def valueRows (nested : Nested) : TokenParser String := do
  let rows ← Phrase.list (do
    let marked ← Phrase.keyword "ROW"
    let row ← Phrase.inParens nested.terms
    pure (marked, Term.listText row))
  let mark := if rows.any Prod.fst then "ROW(" else "("
  pure ("VALUES " ++ ", ".intercalate (rows.map fun row => mark ++ row.2 ++ ")"))

/-- Hints in parentheses after `WITH`; the keyword is left alone if none follow it. -/
def hints (nested : Nested) : TokenParser String := do
  let second ← Parser.peekAfter? 1
  if (second.map (Token.isSign "(")).getD false then
    match ← Phrase.after "WITH" (Phrase.inParens nested.terms) with
    | some found => pure (" WITH (" ++ Term.listText found ++ ")")
    | none => pure ""
  else pure ""

/-- Arguments of a table function up to the closing parenthesis; settings end them. -/
def tableArguments (nested : Nested) : TokenParser String := do
  if ← Phrase.sign ")" then pure "()"
  else
    let argument : TokenParser (String × Bool) := do
      match ← Phrase.settings with
      | some settings => pure (settings, true)
      | none =>
          let term ← Term.argument nested
          pure (term.text, false)
    let first ← argument
    let rest ← Parser.iterate (fun (texts, isLast) => do
      if isLast then pure none
      else if ← Phrase.sign "," then
        let (text, ends) ← argument
        pure (some (texts ++ [text], ends))
      else pure none) ([first.1], first.2)
    Phrase.needSign ")"
    pure ("(" ++ ", ".intercalate rest.1 ++ ")")

/-- A table by its name, or a call of a table function. -/
def plainTable (nested : Nested) : TokenParser Relation := do
  let name ← Phrase.path
  let partitions ← Phrase.after "PARTITION" Phrase.nameList
  let arguments ← do
    if ← Phrase.sign "(" then tableArguments nested else pure ""
  let numbered ← Phrase.keywords ["WITH", "ORDINALITY"]
  let aliasName ← RelationAlias.parser
  let after ← hints nested
  pure
    { table := some name
      isJoin := false
      before := Name.pathSpelling name
        ++ partitions.elim "" (fun names => "PARTITION " ++ Phrase.nameListText names)
        ++ arguments ++ (if numbered then " WITH ORDINALITY" else "")
      aliasName, after }

/-- A table by its name with what is made of it. -/
def named (nested : Nested) : TokenParser Relation := do
  let table ← plainTable nested
  let changed ← Parser.iterate (turned nested) table
  if ← Phrase.keyword "MATCH_RECOGNIZE" then
    let search ← RowPattern.search nested
    unnamed (changed.text ++ " " ++ search)
  else pure changed

/-- A relation behind `LATERAL`. -/
def lateral (nested : Nested) : TokenParser Relation := do
  if ← Phrase.sign "(" then derived nested "LATERAL "
  else
    let name ← Phrase.path
    Phrase.needSign "("
    let found ← Phrase.listUntil ")" (Term.argument nested)
    unnamed ("LATERAL " ++ Name.pathSpelling name ++ "(" ++ Term.listText found ++ ")")

/-- The elements of arrays as rows, after the keyword. -/
def elements (nested : Nested) : TokenParser Relation := do
  let arrays ← Phrase.inParens nested.terms
  let numbered ← Phrase.keywords ["WITH", "ORDINALITY"]
  let aliasName ← RelationAlias.parser
  let offset ← Phrase.afterAll ["WITH", "OFFSET"] (Phrase.aliasName Keyword.columnReserved)
  pure
    { table := none
      isJoin := false
      before := "UNNEST(" ++ Term.listText arrays ++ ")"
        ++ (if numbered then " WITH ORDINALITY" else "")
      aliasName
      after := offset.elim "" fun name =>
        " WITH OFFSET" ++ name.elim "" fun found => " AS " ++ found.spelling }

/-- Takes the alias that stands behind parentheses; a relation has at most one. -/
def withOuterAlias (relation : Relation) : TokenParser Relation := do
  match ← RelationAlias.parser, relation.aliasName with
  | none, _ => pure relation
  | some outer, none => pure { relation with aliasName := some outer }
  | some _, some _ => Parser.fail

/-- A relation in parentheses, after the opening one; `inner` reads the relations
within. -/
def parenthesized (nested : Nested) (inner : TokenParser Relation) : TokenParser Relation := do
  match ← Parser.attempt (derived nested "") with
  | some query => Parser.iterate (turned nested) query
  | none =>
      let first ← inner
      let joins ← Parser.many (join nested inner)
      Phrase.needSign ")"
      if joins.isEmpty && !first.isJoin then withOuterAlias first
      else
        let found ← unnamed ("(" ++ first.text ++ String.join joins ++ ")")
        pure { found with isJoin := true }

/-- A relation in at most `depth` pairs of parentheses. -/
def within (nested : Nested) : Nat → TokenParser Relation
  | 0 => Parser.fail
  | depth + 1 => do
      if ← Phrase.keyword "LATERAL" then lateral nested
      else if ← Phrase.keyword "TABLE" then
        let call ← nested.enclosed
        unnamed ("TABLE(" ++ call.text ++ ")")
      else if ← Phrase.sign "(" then parenthesized nested (within nested depth)
      else
        let second ← Parser.peekAfter? 1
        let opens := (second.map (Token.isSign "(")).getD false
        if ← Parser.provided opens (Phrase.keyword "VALUES") then
          let rows ← valueRows nested
          unnamed ("(" ++ rows ++ ")")
        else if ← Phrase.keyword "UNNEST" then elements nested
        else if ← Parser.provided opens (Phrase.keyword "JSON_TABLE") then
          let form ← TableForm.document nested
          unnamed form
        else named nested

/-- A relation. -/
def parser (nested : Nested) : TokenParser Relation := fun input =>
  within nested (input.length + 1) input

end Relation

/-- A relation with the joins that follow it. -/
def FromItem.parser (nested : Nested) : TokenParser FromItem := do
  let first ← Relation.parser nested
  let joins ← Parser.many (Relation.join nested (Relation.parser nested))
  pure
    { source := first.source
      joined := !joins.isEmpty
      spelling := first.text ++ String.join joins }

end ScalarSql.Syntax
