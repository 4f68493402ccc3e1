/-!
# Parsers

A parser takes a value off the front of a list of items, which are characters or tokens,
and leaves the rest; or it fails.  Where the grammar has alternatives, a mismatch means
that the next one may be tried, but an input that nests too deep fails for good.
Repetition is bounded by the number of items that are left, so every parser is a total
function.
-/

set_option autoImplicit false

namespace ScalarSql

/-- Why a parser fails. -/
inductive Parser.Failure where
  /-- The items are not of the form that is asked for. -/
  | mismatch
  /-- The items nest deeper than the parser goes. -/
  | tooDeep
  deriving DecidableEq

/-- Takes a value off the front of a list of items. -/
abbrev Parser (ι : Type) := StateT (List ι) (Except Parser.Failure)

namespace Parser

variable {ι α : Type}

/-- The value for an input that the parser uses up. -/
def all? (parser : Parser ι α) (input : List ι) : Option α :=
  match parser input with
  | .ok (value, []) => some value
  | _ => none

/-- A parser that nothing matches. -/
def fail : Parser ι α := fun _ => .error .mismatch

/-- A parser for what nests too deep. -/
def tooDeep : Parser ι α := fun _ => .error .tooDeep

/-- The next item, which is taken. -/
def next : Parser ι ι
  | [] => .error .mismatch
  | item :: rest => .ok (item, rest)

/-- The next item, which is left where it is. -/
def peek? : Parser ι (Option ι) := fun input => .ok (input.head?, input)

/-- The item after the next `count` ones, which are left where they are. -/
def peekAfter? (count : Nat) : Parser ι (Option ι) := fun input => .ok (input[count]?, input)

/-- The value of a parser, or nothing taken if the input does not match. -/
def attempt (parser : Parser ι α) : Parser ι (Option α) := fun input =>
  match parser input with
  | .ok (value, rest) => .ok (some value, rest)
  | .error .mismatch => .ok (none, input)
  | .error .tooDeep => .error .tooDeep

/-- Takes the next item if it is as wanted, and says whether it did. -/
def accept (wanted : ι → Bool) : Parser ι Bool
  | [] => .ok (false, [])
  | item :: rest => if wanted item then .ok (true, rest) else .ok (false, item :: rest)

/-- Takes the next item, which must be as wanted. -/
def expect (wanted : ι → Bool) : Parser ι Unit := do
  if ← accept wanted then pure () else fail

/-- The answer of a parser under a condition; otherwise nothing is taken and the answer is
no. -/
def provided (condition : Bool) (parser : Parser ι Bool) : Parser ι Bool :=
  if condition then parser else pure false

/-- Takes items while they are as wanted. -/
def takeWhile (wanted : ι → Bool) : Parser ι (List ι) := fun input =>
  .ok (input.takeWhile wanted, input.dropWhile wanted)

/-- Applies `step` to a value as long as it gives a new one, at most `fuel` times. -/
def iterateUpTo (step : α → Parser ι (Option α)) : Nat → α → Parser ι α
  | 0, value => pure value
  | fuel + 1, value => do
      match ← step value with
      | none => pure value
      | some changed => iterateUpTo step fuel changed

/-- Applies `step` to a value as long as it gives a new one. -/
def iterate (step : α → Parser ι (Option α)) (value : α) : Parser ι α := fun input =>
  iterateUpTo step (input.length + 1) value input

/-- The values of `step` as long as it gives one. -/
def many (step : Parser ι (Option α)) : Parser ι (List α) := do
  let collected ← iterate (fun collected => do
    match ← step with
    | none => pure none
    | some value => pure (some (value :: collected))) []
  pure collected.reverse

/-- One or more values with a separator between them. -/
def separatedBy (separator : Parser ι Bool) (item : Parser ι α) : Parser ι (List α) := do
  let first ← item
  let rest ← many (do if ← separator then some <$> item else pure none)
  pure (first :: rest)

end Parser

end ScalarSql
