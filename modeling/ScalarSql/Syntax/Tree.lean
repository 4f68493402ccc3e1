import ScalarSql.Operator
import ScalarSql.Syntax.Quoted

/-!
# Statements as they are written

The syntax of statements, before names are given a meaning.  What queries here can
contain is kept in full; other forms of standard SQL are recognised too, but of them only
the canonical spelling is kept, which error messages show.  `Term.text` gives the
canonical spelling of a term: keywords in upper case, one blank between parts, and no
parentheses but the written ones.
-/

set_option autoImplicit false

namespace ScalarSql.Syntax

/-- A name, with the character it is quoted with. -/
structure Name where
  text : String
  quote : Option Char
  deriving DecidableEq

namespace Name

/-- The spelling of a name. -/
def spelling (name : Name) : String :=
  match name.quote with
  | none => name.text
  | some quote => quotedText quote name.text

/-- The spelling of a name with several parts. -/
def pathSpelling (path : List Name) : String :=
  ".".intercalate (path.map spelling)

end Name

/-- A literal. -/
inductive Literal where
  | number (text : String) (long : Bool)
  | text (value : String)
  | boolean (value : Bool)
  | null
  /-- A literal of another kind: how messages name it, and how it is spelled. -/
  | other (label spelling : String)

namespace Literal

/-- The spelling of a literal. -/
def spelling : Literal → String
  | .number digits long => digits ++ (if long then "L" else "")
  | .text value => quotedText '\'' value
  | .boolean value => if value then "true" else "false"
  | .null => "NULL"
  | .other _ spelling => spelling

end Literal

/-- A binary operator: its meaning, if it has one, how messages name it, and how it is
spelled. -/
structure BinarySign where
  meaning : Option Operator
  label : String
  spelling : String

/-- The ways of writing a cast. -/
inductive CastForm where
  | plain
  | attempt
  | safe
  | colons
  deriving DecidableEq

/-- The spellings around the arguments of a call: the parentheses, and what stands next to
them that has no bearing on the result. -/
structure CallMarks where
  /-- Whether equal arguments are meant to count once. -/
  distinct : Bool
  before : String
  after : String

/-- An expression as it is written. -/
inductive Term where
  | identifier (name : Name)
  /-- Names joined by points. -/
  | path (first : Name) (rest : List Name)
  | literal (value : Literal)
  | binary (left : Term) (sign : BinarySign) (right : Term)
  | not (operand : Term)
  | plus (operand : Term)
  | minus (operand : Term)
  | factorial (operand : Term)
  | isNull (operand : Term)
  | isNotNull (operand : Term)
  /-- A cast, with the spelling of the format that texts are read or written in. -/
  | cast (form : CastForm) (operand : Term) (target format : String)
  | call (function : List Name) (marks : CallMarks) (arguments : List Term)
  /-- A call of a function on the rows of a query. -/
  | queryCall (spelling : String)
  /-- A term in parentheses. -/
  | nested (inner : Term)
  /-- A query in parentheses. -/
  | subquery (spelling : String)
  /-- The sign for all columns, as an argument. -/
  | star
  /-- An argument that is not given by its position. -/
  | labelled (spelling : String)
  | other (spelling : String)

instance : Inhabited Term := ⟨.star⟩

namespace Term

mutual

/-- The canonical spelling of a term. -/
def text : Term → String
  | .identifier name => name.spelling
  | .path first rest => Name.pathSpelling (first :: rest)
  | .literal value => value.spelling
  | .binary left sign right => left.text ++ " " ++ sign.spelling ++ " " ++ right.text
  | .not operand => "NOT " ++ operand.text
  | .plus operand => "+" ++ operand.text
  | .minus operand => "-" ++ operand.text
  | .factorial operand => operand.text ++ "!"
  | .isNull operand => operand.text ++ " IS NULL"
  | .isNotNull operand => operand.text ++ " IS NOT NULL"
  | .cast form operand target format =>
      match form with
      | .plain => "CAST(" ++ operand.text ++ " AS " ++ target ++ format ++ ")"
      | .attempt => "TRY_CAST(" ++ operand.text ++ " AS " ++ target ++ format ++ ")"
      | .safe => "SAFE_CAST(" ++ operand.text ++ " AS " ++ target ++ format ++ ")"
      | .colons => operand.text ++ "::" ++ target
  | .call function marks arguments =>
      Name.pathSpelling function ++ marks.before ++ ", ".intercalate (texts arguments)
        ++ marks.after
  | .queryCall spelling => spelling
  | .nested inner => "(" ++ inner.text ++ ")"
  | .subquery spelling => "(" ++ spelling ++ ")"
  | .star => "*"
  | .labelled spelling => spelling
  | .other spelling => spelling

/-- The spellings of several terms. -/
def texts : List Term → List String
  | [] => []
  | first :: rest => first.text :: texts rest

end

/-- Terms with commas between them. -/
def listText (terms : List Term) : String := ", ".intercalate (texts terms)

end Term

/-- An item of a select list. -/
inductive SelectItem where
  | bare (term : Term)
  | aliased (term : Term) (aliasName : Name)
  /-- All columns. -/
  | star (spelling : String)
  | other (spelling : String)

namespace SelectItem

/-- The spelling of an item. -/
def text : SelectItem → String
  | .bare term => term.text
  | .aliased term aliasName => term.text ++ " AS " ++ aliasName.spelling
  | .star spelling => spelling
  | .other spelling => spelling

end SelectItem

/-- What rows are read from. -/
inductive Source where
  | table (name : List Name) (aliasName : Option Name)
  | other

/-- An element of a from clause. -/
structure FromItem where
  source : Source
  /-- Whether it is joined with more. -/
  joined : Bool
  spelling : String

/-- A key of an order clause. -/
structure OrderItem where
  term : Term
  ascending : Option Bool
  nullsFirst : Option Bool
  /-- The spelling of the values that missing rows are filled in for. -/
  filling : String

namespace OrderItem

/-- The spelling of a key. -/
def text (item : OrderItem) : String :=
  item.term.text
    ++ (match item.ascending with
      | some true => " ASC"
      | some false => " DESC"
      | none => "")
    ++ (match item.nullsFirst with
      | some true => " NULLS FIRST"
      | some false => " NULLS LAST"
      | none => "")
    ++ item.filling

end OrderItem

/-- A group clause. -/
inductive GroupClause where
  | terms (terms : List Term)
  /-- All items that are not aggregated. -/
  | all

/-- A query on the rows of its from clause. -/
structure Select where
  /-- Whether equal rows are meant to appear once. -/
  distinct : Bool
  items : List SelectItem
  sources : List FromItem
  condition : Option Term
  grouping : GroupClause
  having : Option Term

/-- The part of a query that gives its rows. -/
inductive QueryBody where
  | select (select : Select)
  | other

/-- A query. -/
structure Query where
  body : QueryBody
  order : List OrderItem
  limit : Option Term
  offset : Option Term
  spelling : String

/-- A statement; those that are no queries are only told apart by how messages name
them. -/
inductive Statement where
  | query (query : Query)
  | other (label : String)

end ScalarSql.Syntax
