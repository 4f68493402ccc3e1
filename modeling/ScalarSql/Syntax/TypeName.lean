import ScalarSql.Syntax.Column

/-!
# Names of types

The types that a cast can be written with, each in its canonical spelling.  A word that
is no known type is taken as a type of that name, perhaps with modifiers in parentheses.
Two closing angle brackets can be written as one sign, which then also closes the type
around the one that it ends.
-/

set_option autoImplicit false

namespace ScalarSql.Syntax

/-- The kinds of types that terms tell apart. -/
inductive TypeKind where
  /-- A type that is not known here. -/
  | custom
  | interval
  | known
  deriving DecidableEq

/-- A type as it is written. -/
structure TypeName where
  kind : TypeKind
  spelling : String
  /-- Whether its closing bracket also closes the type around it. -/
  closesOuter : Bool

namespace TypeName

/-- A known type without brackets to share. -/
def ofSpelling (spelling : String) : TypeName where
  kind := .known
  spelling
  closesOuter := false

/-! ## Parameters -/

/-- A number in parentheses, if it comes next. -/
def size : TokenParser String := do
  if ← Phrase.sign "(" then
    let value ← Phrase.count
    Phrase.needSign ")"
    pure ("(" ++ Nat.repr value ++ ")")
  else pure ""

/-- A precision and a scale in parentheses, if they come next. -/
def precision (separator : String) : TokenParser String := do
  if ← Phrase.sign "(" then
    let value ← Phrase.count
    if ← Phrase.sign "," then
      let scale ← Phrase.count
      Phrase.needSign ")"
      pure ("(" ++ Nat.repr value ++ separator ++ Nat.repr scale ++ ")")
    else
      Phrase.needSign ")"
      pure ("(" ++ Nat.repr value ++ ")")
  else pure ""

/-- The length of a text in parentheses, if it comes next. -/
def textLength : TokenParser String := do
  if ← Phrase.sign "(" then
    if ← Phrase.keyword "MAX" then
      Phrase.needSign ")"
      pure "(MAX)"
    else
      let value ← Phrase.count
      let unit ← Phrase.oneOf ["CHARACTERS", "OCTETS"]
      Phrase.needSign ")"
      pure ("(" ++ Nat.repr value ++ (unit.elim "" (" " ++ ·)) ++ ")")
  else pure ""

/-- The zone of a time, if one is given. -/
def zone : TokenParser String := do
  match ← Phrase.oneOf ["WITH", "WITHOUT"] with
  | some word =>
      Phrase.needKeywords ["TIME", "ZONE"]
      pure (" " ++ word ++ " TIME ZONE")
  | none => pure ""

/-- The texts of an enumeration. -/
def choices : TokenParser String := do
  let texts ← Phrase.inParens (Phrase.list Column.plainText)
  pure ("(" ++ ", ".intercalate (texts.map (quotedText '\'')) ++ ")")

/-- The digits of the seconds and the zone of an exact time. -/
def exactTime : TokenParser String :=
  Phrase.inParens (do
    let digits ← Phrase.count
    if ← Phrase.sign "," then
      let zone ← Phrase.textValue
      pure ("DateTime64(" ++ Nat.repr digits ++ ", '" ++ zone ++ "')")
    else pure ("DateTime64(" ++ Nat.repr digits ++ ")"))

/-! ## Types of another name -/

/-- A modifier of a type of another name; commas between modifiers have no meaning. -/
def modifier : TokenParser (Option String) := do
  match ← Parser.peek? with
  | some (.word text quote) => Parser.next *> pure (some (Token.word text quote).spelling)
  | some (.number text _) => Parser.next *> pure (some text)
  | some (.text value) => Parser.next *> pure (some value)
  | _ => pure none

/-- Modifiers up to the closing parenthesis. -/
def modifiers : TokenParser (List String) := do
  let skipCommas := Parser.takeWhile (Token.isSign ",")
  let _ ← skipCommas
  let found ← Parser.many (do
    let found ← modifier
    let _ ← skipCommas
    pure found)
  Phrase.needSign ")"
  pure found

/-- A type of another name. -/
def custom : TokenParser TypeName := do
  let path ← Phrase.path
  let found ← do
    if ← Phrase.sign "(" then modifiers else pure []
  pure
    { kind := .custom
      spelling := Name.pathSpelling path
        ++ (if found.isEmpty then "" else "(" ++ ", ".intercalate found ++ ")")
      closesOuter := false }

/-! ## Known types -/

/-- The words for types without parameters, with their spellings. -/
def plainWords : List (String × String) :=
  [("INT16", "Int16"), ("INT32", "Int32"), ("INT64", "INT64"), ("INT128", "Int128"),
    ("INT256", "Int256"), ("UINT8", "UInt8"), ("UINT16", "UInt16"), ("UINT32", "UInt32"),
    ("UINT64", "UInt64"), ("UINT128", "UInt128"), ("UINT256", "UInt256"),
    ("FLOAT32", "Float32"), ("FLOAT64", "FLOAT64"), ("DATE32", "Date32")]
    ++ ["BOOLEAN", "BOOL", "REAL", "FLOAT4", "FLOAT8", "UUID", "DATE", "JSON", "JSONB",
      "REGCLASS", "TEXT", "BYTEA", "TRIGGER"].map fun word => (word, word)

/-- The words for integer types. -/
def integerWords : List String :=
  ["TINYINT", "INT2", "SMALLINT", "MEDIUMINT", "INT", "INT4", "INT8", "INTEGER", "BIGINT"]

/-- An integer type, which may have a display width and lack a sign. -/
def integer (word : String) : TokenParser String := do
  let width ← size
  let unsigned ← Phrase.keyword "UNSIGNED"
  pure (word ++ width ++ (if unsigned then " UNSIGNED" else ""))

/-- The words for types with a size. -/
def sizedWords : List String :=
  ["FLOAT", "CLOB", "BINARY", "VARBINARY", "BLOB", "BYTES", "DATETIME", "STRING", "TIMESTAMPTZ",
    "TIMETZ"]

/-- The words for types with a precision and a scale. -/
def preciseWords : List String :=
  ["NUMERIC", "DECIMAL", "DEC", "BIGNUMERIC", "BIGDECIMAL"]

/-- The type of characters that a word starts. -/
def characters (word : String) : TokenParser String := do
  if ← Phrase.keyword "VARYING" then
    let length ← textLength
    pure (word ++ " VARYING" ++ length)
  else if ← Phrase.keywords ["LARGE", "OBJECT"] then
    let length ← size
    pure (word ++ " LARGE OBJECT" ++ length)
  else
    let length ← textLength
    pure (word ++ length)

/-- The words for types with rules of their own. -/
def specialWords : List String :=
  ["DOUBLE", "VARCHAR", "NVARCHAR", "CHARACTER", "CHAR", "TIMESTAMP", "TIME", "ENUM", "SET",
    "DATETIME64", "FIXEDSTRING"]

/-- A type that starts with one of the special words. -/
def special (word : String) : TokenParser String := do
  match word with
  | "DOUBLE" =>
      let precise ← Phrase.keyword "PRECISION"
      pure (if precise then "DOUBLE PRECISION" else "DOUBLE")
  | "CHARACTER" | "CHAR" => characters word
  | "TIMESTAMP" | "TIME" =>
      let digits ← size
      let zoned ← zone
      pure (word ++ digits ++ zoned)
  | "ENUM" | "SET" =>
      let texts ← choices
      pure (word ++ texts)
  | "DATETIME64" => exactTime
  | "FIXEDSTRING" =>
      let length ← Phrase.inParens Phrase.count
      pure ("FixedString(" ++ Nat.repr length ++ ")")
  | _ =>
      let length ← textLength
      pure (word ++ length)

/-- The type that a keyword starts that contains no other types. -/
def simple? (word : String) : Option (TokenParser String) :=
  match plainWords.lookup word with
  | some spelling => some (pure spelling)
  | none =>
      if integerWords.contains word then some (integer word)
      else if sizedWords.contains word then some ((word ++ ·) <$> size)
      else if preciseWords.contains word then some ((word ++ ·) <$> precision ",")
      else if specialWords.contains word then some (special word)
      else none

/-! ## Types that contain types -/

/-- A type whose brackets close nothing around it. -/
def closed (element : TokenParser TypeName) : TokenParser String := do
  let type ← element
  if type.closesOuter then Parser.fail else pure type.spelling

/-- Closes the angle bracket around a type, unless that type did; says whether the sign
also closes the next bracket. -/
def closeAngle (inner : TypeName) : TokenParser Bool := do
  if inner.closesOuter then pure false
  else if ← Phrase.sign ">" then pure false
  else
    Phrase.needSign ">>"
    pure true

/-- Whether a token is a word. -/
def isWord : Option Token → Bool
  | some (.word _ _) => true
  | _ => false

/-- A field of a structure type: a name and a type, or a type alone. -/
def structField (element : TokenParser TypeName) : TokenParser TypeName := do
  let first ← Parser.peek?
  let second ← Parser.peekAfter? 1
  if isWord first && isWord second then
    let name ← Phrase.name
    let type ← element
    pure { type with spelling := name.spelling ++ " " ++ type.spelling }
  else element

/-- Further fields of a structure type; only the last one may close an outer bracket. -/
def nextField (element : TokenParser TypeName) (fields : List TypeName) :
    TokenParser (Option (List TypeName)) := do
  if ← Phrase.sign "," then
    if (fields.getLast?.map TypeName.closesOuter).getD false then Parser.fail
    else
      let field ← structField element
      pure (some (fields ++ [field]))
  else pure none

/-- The fields of a structure type in angle brackets, after the opening one, and whether
the closing sign also closes the next bracket. -/
def structFields (element : TokenParser TypeName) : TokenParser (String × Bool) := do
  let first ← structField element
  let fields ← Parser.iterate (nextField element) [first]
  let closesOuter ← closeAngle (fields.getLast?.getD first)
  pure ("<" ++ ", ".intercalate (fields.map TypeName.spelling) ++ ">", closesOuter)

/-- A member of a union: a name and a type. -/
def unionMember (element : TokenParser TypeName) : TokenParser String := do
  let name ← Phrase.name
  let type ← closed element
  pure (name.spelling ++ " " ++ type)

/-- The type that a keyword starts that contains other types. -/
def compound? (nested : Nested) (element : TokenParser TypeName) (word : String) :
    Option (TokenParser TypeName) :=
  match word with
  | "ARRAY" => some (do
      Phrase.needSign "<"
      let inner ← element
      let closesOuter ← closeAngle inner
      pure { ofSpelling ("ARRAY<" ++ inner.spelling ++ ">") with closesOuter })
  | "STRUCT" => some (do
      if ← Phrase.sign "<" then
        let (fields, closesOuter) ← structFields element
        pure { ofSpelling ("STRUCT" ++ fields) with closesOuter }
      else pure (ofSpelling "STRUCT"))
  | "UNION" => some (do
      let members ← Phrase.inParens (Phrase.list (unionMember element))
      pure (ofSpelling ("UNION(" ++ ", ".intercalate members ++ ")")))
  | "NULLABLE" => some (wrapped "Nullable")
  | "LOWCARDINALITY" => some (wrapped "LowCardinality")
  | "MAP" => some (Phrase.inParens (do
      let key ← closed element
      Phrase.needSign ","
      let value ← closed element
      pure (ofSpelling ("Map(" ++ key ++ ", " ++ value ++ ")"))))
  | "NESTED" => some (do
      let columns ← Phrase.inParens (Phrase.list (Column.definition nested (closed element)))
      pure (ofSpelling ("Nested(" ++ ", ".intercalate columns ++ ")")))
  | "TUPLE" => some (do
      let fields ← Phrase.inParens (Phrase.list (structField element))
      pure (ofSpelling ("Tuple(" ++ ", ".intercalate (fields.map TypeName.spelling) ++ ")")))
  | "INTERVAL" => some (pure { ofSpelling "INTERVAL" with kind := .interval })
  | _ => none
where
  /-- A type around one other type in parentheses. -/
  wrapped (label : String) : TokenParser TypeName := do
    let inner ← Phrase.inParens (closed element)
    pure (ofSpelling (label ++ "(" ++ inner ++ ")"))

/-- The type that a keyword starts, if it is a known one. -/
def ofKeyword? (nested : Nested) (element : TokenParser TypeName) (word : String) :
    Option (TokenParser TypeName) :=
  match simple? word with
  | some simple => some (ofSpelling <$> simple)
  | none => compound? nested element word

/-- The length of an array in brackets, which may be left out. -/
def arraySize : TokenParser (Option String) := do
  if ← Phrase.sign "[" then
    let length ← Parser.attempt Phrase.count
    Phrase.needSign "]"
    pure (some ("[" ++ (length.elim "" Nat.repr) ++ "]"))
  else pure none

/-- A type nested at most `depth` levels deep. -/
def nestedType (nested : Nested) : Nat → TokenParser TypeName
  | 0 => Parser.fail
  | depth + 1 => do
      let start ← Parser.peek?
      if !isWord start then Parser.fail
      else
        let known := (start.bind Token.keyword?).bind (ofKeyword? nested (nestedType nested depth))
        let base ← match known with
          | some rest => Parser.next *> rest
          | none => custom
        let sizes ← Parser.many arraySize
        if sizes.isEmpty then pure base
        else pure { base with kind := .known, spelling := base.spelling ++ String.join sizes }

/-- A type, which may close a bracket around it. -/
def parser (nested : Nested) : TokenParser TypeName := fun input =>
  nestedType nested (input.length + 1) input

/-- A type in its canonical spelling. -/
def spelled (nested : Nested) : TokenParser String := closed (parser nested)

end TypeName

end ScalarSql.Syntax
