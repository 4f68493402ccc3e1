import ScalarSql.Syntax.Interval

/-!
# Calls

A call is the name of a function with its arguments in parentheses.  Clauses within the
parentheses and behind them order the arguments or choose a window; they are kept as they
are spelled.
-/

set_option autoImplicit false

namespace ScalarSql.Syntax.Term

/-! ## Orders -/

/-- What rows are filled in for the values that are missing in an order. -/
def orderFilling (nested : Nested) : TokenParser String := do
  if ← Phrase.keywords ["WITH", "FILL"] then
    let start ← Phrase.after "FROM" nested.whole
    let stop ← Phrase.after "TO" nested.whole
    let step ← Phrase.after "STEP" nested.whole
    pure (" WITH FILL" ++ start.elim "" (fun term => " FROM " ++ term.text)
      ++ stop.elim "" (fun term => " TO " ++ term.text)
      ++ step.elim "" (fun term => " STEP " ++ term.text))
  else pure ""

/-- The key of an order clause. -/
def orderItem (nested : Nested) : TokenParser OrderItem := do
  let term ← nested.whole
  let direction ← Phrase.oneOf ["ASC", "DESC"]
  let nulls ← do
    if ← Phrase.keywords ["NULLS", "FIRST"] then pure (some true)
    else if ← Phrase.keywords ["NULLS", "LAST"] then pure (some false)
    else pure none
  let filling ← orderFilling nested
  pure { term, ascending := direction.map (· == "ASC"), nullsFirst := nulls, filling }

/-- The keys of an order clause, after its keywords. -/
def orderText (nested : Nested) : TokenParser String := do
  let items ← Phrase.list (orderItem nested)
  pure ("ORDER BY " ++ ", ".intercalate (items.map OrderItem.text))

/-! ## Arguments -/

/-- All columns of a table: names, each followed by a point, and a star. -/
def qualifiedStar : TokenParser String := do
  let first ← Phrase.name
  let rest ← Parser.many (do
    match ← Parser.peek?, ← Parser.peekAfter? 1 with
    | some (.sign "."), some token =>
        match Phrase.nameOf? token with
        | some name => do
            let _ ← Parser.next
            let _ ← Parser.next
            pure (some name)
        | none => pure none
    | _, _ => pure none)
  Phrase.needSign "."
  Phrase.needSign "*"
  pure (Name.pathSpelling (first :: rest) ++ ".*")

/-- A term, or a star for all columns. -/
def termOrStar (nested : Nested) : TokenParser Term := do
  if ← Phrase.sign "*" then pure .star
  else
    match ← Parser.attempt qualifiedStar with
    | some spelling => pure (.labelled spelling)
    | none => nested.whole

/-- An argument with its name in front of the given sign. -/
def namedArgument (spelling : String) (value : TokenParser Term) : TokenParser Term := do
  let name ← Phrase.name
  Phrase.needSign spelling
  let found ← value
  pure (.labelled (name.spelling ++ " " ++ spelling ++ " " ++ found.text))

/-- An argument of a call. -/
def argument (nested : Nested) : TokenParser Term := do
  match ← Parser.peekAfter? 1 with
  | some (.sign "=>") => namedArgument "=>" (termOrStar nested)
  | some (.sign ":=") => namedArgument ":=" nested.whole
  | _ => termOrStar nested

/-! ## Clauses within the parentheses -/

/-- How `NULL`s are treated, if it is said. -/
def nullTreatment : TokenParser (Option String) := do
  match ← Phrase.oneOf ["RESPECT", "IGNORE"] with
  | some word =>
      Phrase.needKeyword "NULLS"
      pure (some (word ++ " NULLS"))
  | none => pure none

/-- The text that stands for what was cut off, if it is given. -/
def overflowFiller (nested : Nested) : TokenParser String := do
  match ← Parser.peek? with
  | some (.text _) | some (.markedText .escaped _) | some (.markedText .unicode _)
  | some (.markedText .national _) | some (.markedText .hexadecimal _) =>
      let filler ← nested.whole
      pure (" " ++ filler.text)
  | _ => pure ""

/-- What happens when a list of values gets too long, after the keywords. -/
def overflow (nested : Nested) : TokenParser String := do
  if ← Phrase.keyword "ERROR" then pure "ON OVERFLOW ERROR"
  else
    Phrase.needKeyword "TRUNCATE"
    let filler ← overflowFiller nested
    let counting ← Phrase.needOneOf ["WITH", "WITHOUT"]
    Phrase.needKeyword "COUNT"
    pure ("ON OVERFLOW TRUNCATE" ++ filler ++ " " ++ counting ++ " COUNT")

/-- The greatest or least value that the rows of a call share, after its keyword. -/
def extreme (nested : Nested) : TokenParser String := do
  let kind ← Phrase.needOneOf ["MIN", "MAX"]
  let bound ← nested.whole
  pure ("HAVING " ++ kind ++ " " ++ bound.text)

/-- The number of values that count, after its keyword. -/
def limitText (nested : Nested) : TokenParser String := do
  let count ← nested.whole
  pure ("LIMIT " ++ count.text)

/-- What stands between values, after its keyword. -/
def separatorText : TokenParser String := do
  let separator ← Phrase.literal
  pure ("SEPARATOR " ++ separator.spelling)

/-- The clauses behind the arguments but for the treatment of `NULL`s; each of them can be
left out, and their order is fixed. -/
def argumentClauses (nested : Nested) : TokenParser (List String) := do
  let order ← Phrase.afterAll ["ORDER", "BY"] (orderText nested)
  let limit ← Phrase.after "LIMIT" (limitText nested)
  let bound ← Phrase.after "HAVING" (extreme nested)
  let separator ← Phrase.after "SEPARATOR" separatorText
  let excess ← Phrase.afterAll ["ON", "OVERFLOW"] (overflow nested)
  pure ([order, limit, bound, separator, excess].filterMap id)

/-- The arguments of a call with what is written around them. -/
structure Arguments where
  marks : CallMarks
  terms : List Term
  /-- Whether the treatment of `NULL`s is given among them. -/
  treatsNulls : Bool

/-- The marks of a call without parentheses. -/
def noMarks : CallMarks := { distinct := false, before := "", after := "" }

/-- Whether equal arguments count once, if it is said. -/
def quantifier : TokenParser (Option String) := do
  if ← Phrase.keyword "ALL" then
    if ← Phrase.keyword "DISTINCT" then Parser.fail else pure (some "ALL")
  else if ← Phrase.keyword "DISTINCT" then pure (some "DISTINCT")
  else pure none

/-- The arguments of a call after the opening parenthesis, up to the closing one. -/
def arguments (nested : Nested) : TokenParser Arguments := do
  if ← Phrase.sign ")" then
    pure
      { marks := { distinct := false, before := "(", after := ")" }
        terms := []
        treatsNulls := false }
  else
    let counted ← quantifier
    let terms ← Phrase.list (argument nested)
    let treatment ← nullTreatment
    let clauses ← argumentClauses nested
    Phrase.needSign ")"
    pure
      { marks :=
          { distinct := counted == some "DISTINCT"
            before := "(" ++ counted.elim "" (· ++ " ")
            after := String.join ((treatment.toList ++ clauses).map (" " ++ ·)) ++ ")" }
        terms
        treatsNulls := treatment.isSome }

/-! ## Windows -/

/-- A distance between rows; a text is an interval of time. -/
def frameDistance (nested : Nested) : TokenParser Term := do
  match ← Parser.peek? with
  | some (.text value) => interval (Parser.next *> collated (.literal (.text value)))
  | _ => nested.whole

/-- The end of a window. -/
def frameBound (nested : Nested) : TokenParser String := do
  if ← Phrase.keywords ["CURRENT", "ROW"] then pure "CURRENT ROW"
  else
    let distance ← do
      if ← Phrase.keyword "UNBOUNDED" then pure "UNBOUNDED"
      else Term.text <$> frameDistance nested
    let direction ← Phrase.needOneOf ["PRECEDING", "FOLLOWING"]
    pure (distance ++ " " ++ direction)

/-- The rows around a row that a window consists of. -/
def frame (nested : Nested) : TokenParser String := do
  let units ← Phrase.needOneOf ["ROWS", "RANGE", "GROUPS"]
  if ← Phrase.keyword "BETWEEN" then
    let first ← frameBound nested
    Phrase.needKeyword "AND"
    let last ← frameBound nested
    pure (units ++ " BETWEEN " ++ first ++ " AND " ++ last)
  else
    let bound ← frameBound nested
    pure (units ++ " " ++ bound)

/-- The name of a window that another one extends. -/
def windowBase : TokenParser (Option String) := do
  match ← Parser.peek? with
  | some token =>
      if Keyword.isPlainWord token then
        let name ← Phrase.name
        pure (some name.spelling)
      else pure none
  | none => pure none

/-- A window after its opening parenthesis. -/
def window (nested : Nested) : TokenParser String := do
  let base ← windowBase
  let partitions ← Phrase.afterAll ["PARTITION", "BY"] nested.terms
  let order ← Phrase.afterAll ["ORDER", "BY"] (orderText nested)
  let rows ← do
    if ← Phrase.sign ")" then pure none
    else
      let rows ← frame nested
      Phrase.needSign ")"
      pure (some rows)
  let parts := base.toList ++ (partitions.map fun terms => "PARTITION BY " ++ listText terms).toList
    ++ order.toList ++ rows.toList
  pure ("(" ++ " ".intercalate parts ++ ")")

/-! ## Whole calls -/

/-- What can follow the parentheses of a call.  The treatment of `NULL`s can be given here
or among the arguments, but not twice. -/
def callSuffix (nested : Nested) (treatsNulls : Bool) : TokenParser String := do
  let within ← Phrase.afterAll ["WITHIN", "GROUP"] (Phrase.inParens (do
    Phrase.needKeywords ["ORDER", "BY"]
    orderText nested))
  let treatment ← if treatsNulls then pure none else nullTreatment
  let windowText ← Phrase.after "OVER" (do
    if ← Phrase.sign "(" then window nested
    else
      let name ← Phrase.name
      pure name.spelling)
  pure (within.elim "" (fun order => " WITHIN GROUP (" ++ order ++ ")")
    ++ treatment.elim "" (" " ++ ·) ++ windowText.elim "" (" OVER " ++ ·))

/-- A call after the name of the function and the opening parenthesis.  Of two lists of
arguments the second one counts. -/
def callOf (nested : Nested) (function : List Name) : TokenParser Term := do
  let first ← arguments nested
  if ← Phrase.sign "(" then
    let second ← arguments nested
    let suffix ← callSuffix nested second.treatsNulls
    pure (.call function
      { second.marks with
        before := first.marks.before ++ listText first.terms ++ first.marks.after
          ++ second.marks.before
        after := second.marks.after ++ suffix } second.terms)
  else
    let suffix ← callSuffix nested first.treatsNulls
    pure (.call function { first.marks with after := first.marks.after ++ suffix } first.terms)

/-- A call of a function whose name stands alone or in front of arguments. -/
def bareCall (nested : Nested) (function : Name) : TokenParser Term := do
  if ← Phrase.sign "(" then
    let found ← arguments nested
    pure (.call [function] found.marks found.terms)
  else pure (.call [function] noMarks [])

end ScalarSql.Syntax.Term
