import ScalarSql.Syntax.Phrase

/-!
# Binary operators

The operators that stand between two operands: how tightly they bind and what they mean.
Most have no meaning here and only the names that messages give them.
-/

set_option autoImplicit false

namespace ScalarSql.Syntax

namespace Term

/-! ## Strength of operators -/

/-- The strength of a test for membership or an interval. -/
def intervalStrength : Nat := 20

/-- The strength of a test against a pattern. -/
def patternStrength : Nat := 19

/-- The strength of addition. -/
def additionStrength : Nat := 30

/-- The strength of logical negation. -/
def notStrength : Nat := 15

/-- The strength that the operand of a numeric sign needs. -/
def unaryStrength : Nat := 40

/-- How tightly an operator binds that is written as a sign; zero for other signs. -/
def signStrength (spelling : String) : Nat :=
  if ["::", "!", "[", "&&", "^@"].contains spelling then 50
  else if ["*", "/", "//", "%", "||"].contains spelling then 40
  else if ["+", "-"].contains spelling then additionStrength
  else if spelling == "&" then 23
  else if ["^", "#", ">>", "<<"].contains spelling then 22
  else if spelling == "|" then 21
  else if ["=", "<", "<=", "<>", ">", ">=", "==", "~", "~*", "!~", "!~*", "~~", "~~*", "!~~",
      "!~~*", "<=>"].contains spelling then 20
  else if ["->", "->>", "#>", "#>>", "@>", "<@", "#-", "@?", "@@"].contains spelling then 16
  else 0

/-- The words for tests against a pattern. -/
def patternWords : List String := ["LIKE", "ILIKE", "RLIKE", "REGEXP", "SIMILAR"]

/-- How tightly an operator binds that is written as a word, given the words after it. -/
def wordStrength (word : String) (second third : Option String) : Nat :=
  if word == "OR" then 5
  else if word == "AND" then 10
  else if word == "XOR" then 24
  else if word == "AT" then if second == some "TIME" && third == some "ZONE" then 41 else 0
  else if word == "NOT" then
    match second with
    | some "IN" | some "BETWEEN" => intervalStrength
    | some test => if patternWords.contains test then patternStrength else 0
    | none => 0
  else if word == "IS" then 17
  else if word == "IN" || word == "BETWEEN" || word == "OPERATOR" then intervalStrength
  else if patternWords.contains word then patternStrength
  else if word == "DIV" then 40
  else 0

/-- How tightly the operator binds that comes next; zero if there is none. -/
def nextStrength : TokenParser Nat := do
  match ← Parser.peek? with
  | some (.sign spelling) => pure (signStrength spelling)
  | some token =>
      match token.keyword? with
      | some word => do
          let second := (← Parser.peekAfter? 1).bind Token.keyword?
          let third := (← Parser.peekAfter? 2).bind Token.keyword?
          pure (wordStrength word second third)
      | none => pure 0
  | none => pure 0

/-! ## Binary operators -/

/-- The operators with a meaning, by sign. -/
def knownSigns : List (String × Operator) :=
  [("=", .comparison .eq), ("==", .comparison .eq), ("<>", .comparison .ne),
    (">", .comparison .gt), (">=", .comparison .ge), ("<", .comparison .lt),
    ("<=", .comparison .le), ("+", .arithmetic .add), ("-", .arithmetic .sub),
    ("*", .arithmetic .mul), ("/", .arithmetic .div), ("%", .arithmetic .rem)]

/-- The operators without a meaning here, by sign, with the names that messages give
them. -/
def otherSigns : List (String × String) :=
  [("<=>", "Spaceship"), ("||", "StringConcat"), ("|", "BitwiseOr"), ("^", "BitwiseXor"),
    ("&", "BitwiseAnd"), ("&&", "PGOverlap"), ("//", "DuckIntegerDivide"),
    ("<<", "PGBitwiseShiftLeft"), (">>", "PGBitwiseShiftRight"), ("^@", "PGStartsWith"),
    ("~", "PGRegexMatch"), ("~*", "PGRegexIMatch"), ("!~", "PGRegexNotMatch"),
    ("!~*", "PGRegexNotIMatch"), ("~~", "PGLikeMatch"), ("~~*", "PGILikeMatch"),
    ("!~~", "PGNotLikeMatch"), ("!~~*", "PGNotILikeMatch"), ("->", "Arrow"), ("->>", "LongArrow"),
    ("#>", "HashArrow"), ("#>>", "HashLongArrow"), ("@>", "AtArrow"), ("<@", "ArrowAt"),
    ("#-", "HashMinus"), ("@?", "AtQuestion"), ("@@", "AtAt")]

/-- The operator with a meaning. -/
def known (op : Operator) : BinarySign where
  meaning := some op
  label := op.text
  spelling := if op == .comparison .ne then "<>" else op.text

/-- The operator without a meaning. -/
def unknown (label spelling : String) : BinarySign where
  meaning := none
  label
  spelling

/-- The operator that a sign writes. -/
def signOperator? (spelling : String) : Option BinarySign :=
  match knownSigns.lookup spelling with
  | some op => some (known op)
  | none => (otherSigns.lookup spelling).map fun label => unknown label spelling

/-- An operator given by name between parentheses. -/
def namedOperator : TokenParser BinarySign := do
  let parts ← Phrase.inParens (Parser.separatedBy (Phrase.sign ".") Parser.next)
  let names := parts.map Token.spelling
  let shownNames := ", ".intercalate (names.map Text.escaped)
  pure (unknown ("PGCustomBinaryOperator([" ++ shownNames ++ "])")
    ("OPERATOR(" ++ ".".intercalate names ++ ")"))

/-- The binary operator that a token starts, if it does. -/
def binaryOperator (token : Token) : TokenParser (Option BinarySign) := do
  match token with
  | .sign spelling => pure (signOperator? spelling)
  | word =>
      match word.keyword? with
      | some "AND" => pure (some (known (.logical .and)))
      | some "OR" => pure (some (known (.logical .or)))
      | some "XOR" => pure (some (unknown "Xor" "XOR"))
      | some "OPERATOR" => some <$> namedOperator
      | _ => pure none

end Term

end ScalarSql.Syntax
