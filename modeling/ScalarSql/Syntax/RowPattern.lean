import ScalarSql.Syntax.Term

/-!
# Patterns of rows

A table can be searched for runs of rows that match a pattern of symbols, each of which
stands for the rows with some property.  Patterns are built like regular expressions.
-/

set_option autoImplicit false

namespace ScalarSql.Syntax.RowPattern

/-! ## Patterns -/

/-- A pattern of rows. -/
inductive Pattern where
  | symbol (spelling : String)
  | sequence (parts : List String)
  | choice (parts : List String)

namespace Pattern

/-- The spelling of a pattern. -/
def text : Pattern → String
  | .symbol spelling => spelling
  | .sequence parts => " ".intercalate parts
  | .choice parts => " | ".intercalate parts

end Pattern

/-- A number below `2 ^ 32`, in its canonical spelling. -/
def bound : TokenParser String := do
  let value ← Phrase.count
  if value < twoPow 32 then pure (Nat.repr value) else Parser.fail

/-- The bounds of a repetition in braces, after the opening one. -/
def bounds : TokenParser String := do
  if ← Phrase.sign "," then
    let most ← bound
    Phrase.needSign "\x7d"
    pure ("," ++ most)
  else
    let least ← bound
    if ← Phrase.sign "," then
      if ← Phrase.sign "\x7d" then pure (least ++ ",")
      else
        let most ← bound
        Phrase.needSign "\x7d"
        pure (least ++ "," ++ most)
    else
      Phrase.needSign "\x7d"
      pure least

/-- How often a pattern is repeated, if it is said. -/
def repetition : TokenParser (Option String) := do
  match ← Parser.peek? with
  | some (.sign "*") => Parser.next *> pure (some "*")
  | some (.sign "+") => Parser.next *> pure (some "+")
  | some (.placeholder "?") => Parser.next *> pure (some "?")
  | some (.sign "\x7b") => do
      let _ ← Parser.next
      let found ← bounds
      pure (some ("\x7b" ++ found ++ "\x7d"))
  | _ => pure none

/-- A symbol whose rows are left out of the match, after the opening brace. -/
def excluded : TokenParser String := do
  Phrase.needSign "-"
  let name ← Phrase.name
  Phrase.needSign "-"
  Phrase.needSign "\x7d"
  pure ("\x7b- " ++ name.spelling ++ " -\x7d")

/-- A pattern without repetition; `group` reads what stands in parentheses. -/
def basic (group : TokenParser Pattern) : TokenParser String := do
  match ← Parser.peek? with
  | some (.sign "^") => Parser.next *> pure "^"
  | some (.placeholder "$") => Parser.next *> pure "$"
  | some (.sign "\x7b") => Parser.next *> excluded
  | some (.word "PERMUTE" none) => do
      let _ ← Parser.next
      let names ← Phrase.nameList
      pure ("PERMUTE" ++ Phrase.nameListText names)
  | some (.sign "(") => do
      let inner ← Phrase.inParens group
      pure ("( " ++ inner.text ++ " )")
  | _ => Name.spelling <$> Phrase.name

/-- A pattern with its repetitions. -/
def repeated (group : TokenParser Pattern) : TokenParser String := do
  let start ← basic group
  let repetitions ← Parser.many repetition
  pure (start ++ String.join repetitions)

/-- Patterns that follow each other up to a closing parenthesis or a bar. -/
def inSequence (group : TokenParser Pattern) : TokenParser Pattern := do
  let first ← repeated group
  let rest ← Parser.many (do
    let closing ← Phrase.isSignNext ")"
    let bar ← Phrase.isSignNext "|"
    if closing || bar then pure none else some <$> repeated group)
  if rest.isEmpty then pure (.symbol first) else pure (.sequence (first :: rest))

/-- A pattern with groups at most `depth` levels deep. -/
def patternUpTo : Nat → TokenParser Pattern
  | 0 => Parser.fail
  | depth + 1 => do
      let choices ← Parser.separatedBy (Phrase.sign "|") (inSequence (patternUpTo depth))
      match choices with
      | [only] => pure only
      | several => pure (.choice (several.map Pattern.text))

/-- A pattern. -/
def pattern : TokenParser Pattern := fun input => patternUpTo (input.length + 1) input

/-! ## Searches -/

/-- What is computed from a match: a term with a name. -/
def measure (nested : Nested) : TokenParser String := do
  let term ← nested.whole
  let _ ← Phrase.keyword "AS"
  let name ← Phrase.name
  pure (term.text ++ " AS " ++ name.spelling)

/-- How many rows a match gives, if it is said. -/
def matchRows : TokenParser (Option String) := do
  if ← Phrase.keywords ["ONE", "ROW", "PER", "MATCH"] then pure (some "ONE ROW PER MATCH")
  else if ← Phrase.keywords ["ALL", "ROWS", "PER", "MATCH"] then
    if ← Phrase.keywords ["SHOW", "EMPTY", "MATCHES"] then
      pure (some "ALL ROWS PER MATCH SHOW EMPTY MATCHES")
    else if ← Phrase.keywords ["OMIT", "EMPTY", "MATCHES"] then
      pure (some "ALL ROWS PER MATCH OMIT EMPTY MATCHES")
    else if ← Phrase.keywords ["WITH", "UNMATCHED", "ROWS"] then
      pure (some "ALL ROWS PER MATCH WITH UNMATCHED ROWS")
    else pure (some "ALL ROWS PER MATCH")
  else pure none

/-- Where the search goes on behind a match, if it is said. -/
def afterMatch : TokenParser (Option String) :=
  Phrase.afterAll ["AFTER", "MATCH", "SKIP"] (do
    if ← Phrase.keywords ["PAST", "LAST", "ROW"] then pure "AFTER MATCH SKIP PAST LAST ROW"
    else
      Phrase.needKeyword "TO"
      if ← Phrase.keywords ["NEXT", "ROW"] then pure "AFTER MATCH SKIP TO NEXT ROW"
      else
        let edge ← Phrase.needOneOf ["FIRST", "LAST"]
        let symbol ← Phrase.name
        pure ("AFTER MATCH SKIP TO " ++ edge ++ " " ++ symbol.spelling))

/-- What the rows of a symbol have in common. -/
def meaning (nested : Nested) : TokenParser String := do
  let symbol ← Phrase.name
  Phrase.needKeyword "AS"
  let term ← nested.whole
  pure (symbol.spelling ++ " AS " ++ term.text)

/-- A search for a pattern, after its keyword. -/
def search (nested : Nested) : TokenParser String :=
  Phrase.inParens (do
    let partitions ← Phrase.afterAll ["PARTITION", "BY"] nested.terms
    let order ← Phrase.afterAll ["ORDER", "BY"] (Term.orderText nested)
    let measures ← Phrase.after "MEASURES" (Phrase.list (measure nested))
    let rows ← matchRows
    let next ← afterMatch
    Phrase.needKeyword "PATTERN"
    let found ← Phrase.inParens pattern
    Phrase.needKeyword "DEFINE"
    let meanings ← Phrase.list (meaning nested)
    pure ("MATCH_RECOGNIZE("
      ++ partitions.elim "" (fun terms => "PARTITION BY " ++ Term.listText terms ++ " ")
      ++ order.elim "" (· ++ " ")
      ++ measures.elim "" (fun texts => "MEASURES " ++ ", ".intercalate texts ++ " ")
      ++ rows.elim "" (· ++ " ") ++ next.elim "" (· ++ " ")
      ++ "PATTERN (" ++ found.text ++ ") DEFINE " ++ ", ".intercalate meanings ++ ")"))

end ScalarSql.Syntax.RowPattern
