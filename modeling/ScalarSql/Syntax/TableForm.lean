import ScalarSql.Syntax.RowPattern

/-!
# Tables made of other values

The forms of a from clause that make a table of a document or turn rows into columns and
columns into rows.  Only their spelling is kept.
-/

set_option autoImplicit false

namespace ScalarSql.Syntax.TableForm

/-! ## Documents as tables -/

/-- What a column holds where the document has nothing or something unfit for it. -/
def fallback : TokenParser (Option String) := do
  match ← Phrase.oneOf ["NULL", "ERROR", "DEFAULT"] with
  | some "DEFAULT" =>
      let value ← Phrase.literal
      Phrase.needKeyword "ON"
      pure (some ("DEFAULT " ++ value.spelling))
  | some word =>
      Phrase.needKeyword "ON"
      pure (some word)
  | none => pure none

/-- The fallbacks of a column, for missing and for unfit values. -/
structure Fallbacks where
  onEmpty : Option String
  onError : Option String

namespace Fallbacks

/-- One more fallback, if it comes next; the last one of a kind counts. -/
def step (found : Fallbacks) : TokenParser (Option Fallbacks) := do
  match ← fallback with
  | none => pure none
  | some value =>
      match ← Phrase.needOneOf ["EMPTY", "ERROR"] with
      | "EMPTY" => pure (some { found with onEmpty := some value })
      | _ => pure (some { found with onError := some value })

/-- The fallbacks of a column. -/
def parser : TokenParser String := do
  let found ← Parser.iterate step { onEmpty := none, onError := none }
  pure (found.onEmpty.elim "" (fun value => " " ++ value ++ " ON EMPTY")
    ++ found.onError.elim "" (fun value => " " ++ value ++ " ON ERROR"))

end Fallbacks

/-- A column of a document after its name. -/
def documentColumn (nested : Nested) (name : Name) : TokenParser String := do
  if ← Phrase.keyword "FOR" then
    Phrase.needKeyword "ORDINALITY"
    pure (name.spelling ++ " FOR ORDINALITY")
  else
    let type ← TypeName.spelled nested
    let tested ← Phrase.keyword "EXISTS"
    Phrase.needKeyword "PATH"
    let path ← Phrase.literal
    let fallbacks ← Fallbacks.parser
    pure (name.spelling ++ " " ++ type ++ (if tested then " EXISTS" else "") ++ " PATH "
      ++ path.spelling ++ fallbacks)

/-- Columns of a document at most `depth` levels deep. -/
def documentColumnsUpTo (nested : Nested) : Nat → TokenParser String
  | 0 => Parser.fail
  | depth + 1 =>
      Phrase.inParens (do
        let columns ← Phrase.list (do
          if ← Phrase.keyword "NESTED" then
            let _ ← Phrase.keyword "PATH"
            let path ← Phrase.literal
            Phrase.needKeyword "COLUMNS"
            let inner ← documentColumnsUpTo nested depth
            pure ("NESTED PATH " ++ path.spelling ++ " COLUMNS " ++ inner)
          else
            let name ← Phrase.name
            documentColumn nested name)
        pure ("(" ++ ", ".intercalate columns ++ ")"))

/-- Columns of a document in parentheses. -/
def documentColumns (nested : Nested) : TokenParser String := fun input =>
  documentColumnsUpTo nested (input.length + 1) input

/-- A document as a table, after its keyword. -/
def document (nested : Nested) : TokenParser String :=
  Phrase.inParens (do
    let term ← nested.whole
    Phrase.needSign ","
    let path ← Phrase.literal
    Phrase.needKeyword "COLUMNS"
    let columns ← documentColumns nested
    pure ("JSON_TABLE(" ++ term.text ++ ", " ++ path.spelling ++ " COLUMNS" ++ columns ++ ")"))

/-! ## Rows as columns -/

/-- A term with the name that may follow `AS`. -/
def namedTerm (term : TokenParser Term) : TokenParser String := do
  let found ← term
  let name ← Phrase.after "AS" Phrase.name
  pure (found.text ++ name.elim "" (fun name => " AS " ++ name.spelling))

/-- A call of a function with a name of one part. -/
def simpleCall (nested : Nested) : TokenParser Term := do
  match ← Parser.next with
  | .word text _ =>
      Phrase.needSign "("
      Term.callOf nested [{ text, quote := none }]
  | _ => Parser.fail

/-- The values whose rows become columns. -/
def pivotValues (nested : Nested) : TokenParser String := do
  if ← Phrase.keyword "ANY" then
    let order ← Phrase.afterAll ["ORDER", "BY"] (Term.orderText nested)
    pure ("ANY" ++ order.elim "" (" " ++ ·))
  else if ← Nested.startsQuery then Query.spelling <$> nested.query
  else
    let values ← Phrase.list (namedTerm nested.whole)
    pure (", ".intercalate values)

/-- A table with columns made of rows, after its keyword. -/
def pivot (nested : Nested) : TokenParser String :=
  Phrase.inParens (do
    let calls ← Phrase.list (namedTerm (simpleCall nested))
    Phrase.needKeyword "FOR"
    let column ← Phrase.path
    Phrase.needKeyword "IN"
    let values ← Phrase.inParens (pivotValues nested)
    let otherwise ← Phrase.afterAll ["DEFAULT", "ON", "NULL"] nested.enclosed
    pure ("PIVOT(" ++ ", ".intercalate calls ++ " FOR " ++ Name.pathSpelling column ++ " IN ("
      ++ values ++ ")" ++ otherwise.elim "" (fun term => " DEFAULT ON NULL (" ++ term.text ++ ")")
      ++ ")"))

/-- A table with rows made of columns, after its keyword. -/
def unpivot : TokenParser String :=
  Phrase.inParens (do
    let value ← Phrase.name
    Phrase.needKeyword "FOR"
    let name ← Phrase.name
    Phrase.needKeyword "IN"
    let columns ← Phrase.nameList
    pure ("UNPIVOT(" ++ value.spelling ++ " FOR " ++ name.spelling ++ " IN "
      ++ Phrase.nameListText columns ++ ")"))

end ScalarSql.Syntax.TableForm
