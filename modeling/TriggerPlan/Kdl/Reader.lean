/-!
# Readers

A reader takes characters from the front of a text. It gives a value and the rest of the text, or it
fails; then another reader can be tried on the same text. Repetition is bounded by the length of the
text that is left, so every reader comes to an end.
-/

namespace TriggerPlan.Kdl

/-- Reads a value from the front of a text, or fails. -/
abbrev Reader (α : Type) := StateT (List Char) Option α

namespace Reader

variable {α : Type}

/-- Reads one character of a class. -/
def charWhere (p : Char → Bool) : Reader Char := fun cs =>
  match cs with
  | c :: rest => if p c then some (c, rest) else none
  | [] => none

/-- Reads one given character. -/
def char (c : Char) : Reader Unit := fun cs =>
  match cs with
  | d :: rest => if d = c then some ((), rest) else none
  | [] => none

/-- Reads a given text. -/
def literal (s : List Char) : Reader Unit := fun cs =>
  if s.isPrefixOf cs then some ((), cs.drop s.length) else none

/-- Reads the longest run of characters of a class, which may be empty. -/
def charsWhile (p : Char → Bool) : Reader (List Char) := fun cs =>
  some (cs.takeWhile p, cs.dropWhile p)

/-- Succeeds at the end of the text. -/
def atEnd : Reader Unit := fun cs =>
  if cs.isEmpty then some ((), cs) else none

/-- Succeeds if a given character comes next, and leaves it there. -/
def before (c : Char) : Reader Unit := fun cs =>
  if cs.head? = some c then some ((), cs) else none

/-- Reads a value if there is one. -/
def optionally (r : Reader α) : Reader (Option α) :=
  some <$> r <|> pure none

/-- Reads values until the reader fails, but at most `n`. -/
def upTo (r : Reader α) : Nat → Reader (List α)
  | 0 => pure []
  | n + 1 => fun cs =>
    match r cs with
    | some (a, rest) => (List.cons a <$> upTo r n) rest
    | none => some ([], cs)

/-- Reads values until the reader fails. The reader is meant to take at least one character each
time, so the length of the text bounds the number of values. -/
def many (r : Reader α) : Reader (List α) := fun cs =>
  upTo r cs.length cs

/-- Reads values until the reader fails, and drops them. -/
def skipMany (r : Reader α) : Reader Unit := do
  let _ ← many r

/-- Reads one value at least, and drops them all. -/
def skipSome (r : Reader α) : Reader Unit := do
  let _ ← r
  skipMany r

end Reader

end TriggerPlan.Kdl
