import ScalarSql.Syntax.From

/-!
# Reading select clauses

The part of a query from its select list to its last clause on groups and windows.  The
clauses stand in a fixed order and all but the select list can be left out.
-/

set_option autoImplicit false

namespace ScalarSql.Syntax

namespace SelectItem

/-- A term that takes the place of a column. -/
def replacement (nested : Nested) : TokenParser String := do
  let term ← nested.whole
  let announced ← Phrase.keyword "AS"
  let name ← Phrase.name
  pure (term.text ++ (if announced then " AS " else " ") ++ name.spelling)

/-- Names in parentheses, or one name without them. -/
def someNames : TokenParser String := do
  if ← Phrase.isSignNext "(" then Phrase.nameListText <$> Phrase.nameList
  else Name.spelling <$> Phrase.name

/-- A column and its new name. -/
def columnRenaming : TokenParser String := do
  let old ← Phrase.name
  let _ ← Phrase.keyword "AS"
  let new ← Phrase.name
  pure (old.spelling ++ " AS " ++ new.spelling)

/-- Which columns a star leaves out or changes. -/
def starOptions (nested : Nested) : TokenParser String := do
  let pattern ← Phrase.after "ILIKE" Column.plainText
  let excluded ← if pattern.isSome then pure none else Phrase.after "EXCLUDE" someNames
  let left ← Phrase.after "EXCEPT" (do
    if ← Phrase.isSignNext "(" then Phrase.nameListText <$> Phrase.nameList
    else
      let name ← Phrase.name
      pure (Phrase.nameListText [name]))
  let replaced ← Phrase.after "REPLACE" (Phrase.inParens (Phrase.list (replacement nested)))
  let renamings ← Phrase.after "RENAME" (do
    if ← Phrase.isSignNext "(" then
      let found ← Phrase.inParens (Phrase.list columnRenaming)
      pure ("(" ++ ", ".intercalate found ++ ")")
    else columnRenaming)
  pure (pattern.elim "" (fun text => " ILIKE " ++ quotedText '\'' text)
    ++ excluded.elim "" (" EXCLUDE " ++ ·) ++ left.elim "" (" EXCEPT " ++ ·)
    ++ replaced.elim "" (fun items => " REPLACE (" ++ ", ".intercalate items ++ ")")
    ++ renamings.elim "" (" RENAME " ++ ·))

/-- Whether a term is the word that starts the from clause, which means that an item is
missing. -/
def startsFrom : Term → Bool
  | .identifier ⟨text, none⟩ => text.toLower == "from"
  | _ => false

/-- An item of a select list. -/
def parser (nested : Nested) : TokenParser SelectItem := do
  if ← Phrase.sign "*" then
    let options ← starOptions nested
    pure (.star ("*" ++ options))
  else
    match ← Parser.attempt Term.qualifiedStar with
    | some spelling =>
        let options ← starOptions nested
        pure (.other (spelling ++ options))
    | none =>
        let term ← nested.whole
        if startsFrom term then Parser.fail
        else
          match ← Phrase.aliasName Keyword.columnReserved with
          | some name => pure (.aliased term name)
          | none => pure (.bare term)

/-- Items with commas between them. -/
def listText (items : List SelectItem) : String := ", ".intercalate (items.map SelectItem.text)

end SelectItem

namespace Select

/-! ## Before the select list -/

/-- Which of the rows that agree are kept. -/
def distinctText (nested : Nested) : TokenParser String := do
  let all ← Phrase.keyword "ALL"
  if ← Phrase.keyword "DISTINCT" then
    if all then Parser.fail
    else if ← Phrase.keyword "ON" then
      Phrase.needSign "("
      let terms ← Phrase.listUntil ")" (nested.whole)
      pure (" DISTINCT ON (" ++ Term.listText terms ++ ")")
    else pure " DISTINCT"
  else pure ""

/-- How many of the first rows are kept. -/
def top (nested : Nested) : TokenParser String := do
  if ← Phrase.keyword "TOP" then
    let quantity ← do
      if ← Phrase.isSignNext "(" then
        let term ← nested.enclosed
        pure ("(" ++ term.text ++ ")")
      else Nat.repr <$> Phrase.count
    let percent ← Phrase.keyword "PERCENT"
    let ties ← Phrase.keywords ["WITH", "TIES"]
    pure (" TOP " ++ quantity ++ (if percent then " PERCENT" else "")
      ++ (if ties then " WITH TIES" else ""))
  else pure ""

/-! ## Between the select list and the groups -/

/-- A new table for the rows. -/
def target : TokenParser String := do
  if ← Phrase.keyword "INTO" then
    let temporary ← Phrase.oneOf ["TEMP", "TEMPORARY"]
    let unlogged ← Phrase.keyword "UNLOGGED"
    let table ← Phrase.keyword "TABLE"
    let name ← Phrase.path
    pure (" INTO" ++ (if temporary.isSome then " TEMPORARY" else "")
      ++ (if unlogged then " UNLOGGED" else "") ++ (if table then " TABLE" else "") ++ " "
      ++ Name.pathSpelling name)
  else pure ""

/-- The words that end a view of the elements of a column. -/
def lateralReserved : List String := ["WHERE", "GROUP", "CLUSTER", "HAVING", "LATERAL"]

/-- A view of the elements of a column, if one comes next. -/
def lateralView (nested : Nested) : TokenParser (Option String) :=
  Phrase.afterAll ["LATERAL", "VIEW"] (do
    let outer ← Phrase.keyword "OUTER"
    let term ← nested.whole
    let name ← Phrase.path
    let aliases ← Phrase.list (Phrase.aliasName lateralReserved)
    let names := aliases.filterMap id
    pure (" LATERAL VIEW" ++ (if outer then " OUTER" else "") ++ " " ++ term.text ++ " "
      ++ Name.pathSpelling name
      ++ (if names.isEmpty then "" else
        " AS " ++ ", ".intercalate (names.map Name.spelling))))

/-! ## Groups -/

/-- Terms in parentheses; there may be none. -/
def tuple (nested : Nested) : TokenParser (List Term) := do
  Phrase.needSign "("
  Phrase.listUntil ")" (nested.whole)

/-- Terms in parentheses, or one term without them. -/
def openTuple (nested : Nested) : TokenParser (List Term) := do
  if ← Phrase.isSignNext "(" then tuple nested
  else
    let term ← nested.whole
    pure [term]

/-- The spelling of several terms, of which one needs no parentheses. -/
def openTupleText (terms : List Term) : String :=
  match terms with
  | [term] => term.text
  | several => "(" ++ Term.listText several ++ ")"

/-- A key of the groups, or several groupings at once. -/
def groupTerm (nested : Nested) : TokenParser Term := do
  if ← Phrase.keywords ["GROUPING", "SETS"] then
    let sets ← Phrase.inParens (Phrase.list (tuple nested))
    pure (.other ("GROUPING SETS ("
      ++ ", ".intercalate (sets.map fun terms => "(" ++ Term.listText terms ++ ")") ++ ")"))
  else
    match ← Phrase.oneOf ["CUBE", "ROLLUP"] with
    | some word =>
        let sets ← Phrase.inParens (Phrase.list (openTuple nested))
        pure (.other (word ++ " (" ++ ", ".intercalate (sets.map openTupleText) ++ ")"))
    | none =>
        let second ← Parser.peekAfter? 1
        let closes := (second.map (Token.isSign ")")).getD false
        if ← Parser.provided closes (Phrase.sign "(") then
          Phrase.needSign ")"
          pure (.other "()")
        else nested.whole

/-- What is added to the groups. -/
def groupModifier : TokenParser (Option String) :=
  Phrase.after "WITH" (do
    let word ← Phrase.needOneOf ["ROLLUP", "CUBE", "TOTALS"]
    pure (" WITH " ++ word))

/-- The group clause with its spelling. -/
def groupClause (nested : Nested) : TokenParser (GroupClause × String) := do
  if ← Phrase.keywords ["GROUP", "BY"] then
    if ← Phrase.keyword "ALL" then
      let modifiers ← Parser.many groupModifier
      pure (.all, " GROUP BY ALL" ++ String.join modifiers)
    else
      let terms ← Phrase.list (groupTerm nested)
      let modifiers ← Parser.many groupModifier
      pure (.terms terms, " GROUP BY " ++ Term.listText terms ++ String.join modifiers)
  else pure (.terms [], "")

/-! ## Windows -/

/-- Windows with names. -/
def windows (nested : Nested) : TokenParser String := do
  let found ← Phrase.list (do
    let name ← Phrase.name
    Phrase.needKeyword "AS"
    let meaning ← do
      if ← Phrase.sign "(" then Term.window nested else Name.spelling <$> Phrase.name
    pure (name.spelling ++ " AS " ++ meaning))
  pure (" WINDOW " ++ ", ".intercalate found)

/-- A condition on windows. -/
def qualification (nested : Nested) : TokenParser String := do
  let term ← nested.whole
  pure (" QUALIFY " ++ term.text)

/-- The clauses on windows, in either order. -/
def windowClauses (nested : Nested) : TokenParser String := do
  if ← Phrase.keyword "WINDOW" then
    let first ← windows nested
    let second ← Phrase.after "QUALIFY" (qualification nested)
    pure (first ++ second.getD "")
  else if ← Phrase.keyword "QUALIFY" then
    let first ← qualification nested
    let second ← Phrase.after "WINDOW" (windows nested)
    pure (first ++ second.getD "")
  else pure ""

/-! ## Hierarchies -/

/-- The terms that link a row to the one above it, after the keywords. -/
def links (nested : Nested) : TokenParser String := do
  let terms ← Phrase.list (nested.link 0)
  pure (" CONNECT BY " ++ Term.listText terms)

/-- The condition that rows at the top meet, after the keywords. -/
def roots (nested : Nested) : TokenParser String := do
  let term ← nested.whole
  pure (" START WITH " ++ term.text)

/-- A hierarchy of rows, if one comes next: its roots and its links, in either order. -/
def hierarchy (nested : Nested) : TokenParser String := do
  match ← Phrase.oneOf ["START", "CONNECT"] with
  | none => pure ""
  | some "START" =>
      Phrase.needKeyword "WITH"
      let rootText ← roots nested
      Phrase.needKeywords ["CONNECT", "BY"]
      let linkText ← links nested
      pure (rootText ++ linkText)
  | some _ =>
      Phrase.needKeyword "BY"
      let linkText ← links nested
      Phrase.needKeywords ["START", "WITH"]
      let rootText ← roots nested
      pure (rootText ++ linkText)

/-! ## The whole clause -/

/-- A condition after its keyword, if the keyword comes next. -/
def conditionAfter (nested : Nested) (word : String) : TokenParser (Option Term) :=
  Phrase.after word (nested.whole)

/-- The spelling of a condition after its keyword. -/
def conditionText (word : String) (condition : Option Term) : String :=
  condition.elim "" fun term => " " ++ word ++ " " ++ term.text

/-- Terms that the rows are ordered or spread by, after two keywords. -/
def spread (nested : Nested) (word : String) : TokenParser String := do
  match ← Phrase.afterAll [word, "BY"] (nested.terms) with
  | some terms => pure (" " ++ word ++ " BY " ++ Term.listText terms)
  | none => pure ""

/-- A select clause with its spelling, after its first keyword. -/
def parser (nested : Nested) : TokenParser (Select × String) := do
  let distinction ← distinctText nested
  let topText ← top nested
  let items ← Phrase.list (SelectItem.parser nested)
  let targetText ← target
  let sources := (← Phrase.after "FROM" (Phrase.list (FromItem.parser nested))).getD []
  let views ← Parser.many (lateralView nested)
  let early ← conditionAfter nested "PREWHERE"
  let condition ← conditionAfter nested "WHERE"
  let (groups, groupText) ← groupClause nested
  let clusterText ← spread nested "CLUSTER"
  let distributeText ← spread nested "DISTRIBUTE"
  let sortText ← spread nested "SORT"
  let having ← conditionAfter nested "HAVING"
  let windowText ← windowClauses nested
  let hierarchyText ← hierarchy nested
  let fromText := if sources.isEmpty then "" else
    " FROM " ++ ", ".intercalate (sources.map FromItem.spelling)
  pure
    ({ distinct := distinction != "", items, sources, condition, grouping := groups, having },
      "SELECT" ++ distinction ++ topText ++ " " ++ SelectItem.listText items ++ targetText
        ++ fromText ++ String.join views ++ conditionText "PREWHERE" early
        ++ conditionText "WHERE" condition ++ groupText ++ clusterText ++ distributeText
        ++ sortText ++ conditionText "HAVING" having ++ windowText ++ hierarchyText)

end Select

end ScalarSql.Syntax
