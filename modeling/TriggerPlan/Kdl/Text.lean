import TriggerPlan.Kdl.Space
import TriggerPlan.Text.Hex

/-!
# Strings

The ways of writing a string: as a bare word, between quotes with escapes, and raw between quotes
and hash signs. Quotes in threes enclose a string of several lines, from which the indentation of
the closing line is removed.
-/

namespace TriggerPlan.Kdl

/-! ## Bare words -/

/-- The characters of a bare word. -/
def isWordChar (c : Char) : Bool :=
  !isSpace c && !isLineBreak c && !"\\/()\x7b\x7d[];\"#=".toList.contains c

/-- Whether a word starts like a number: with a digit, possibly after a sign, a point or both. -/
def startsLikeNumber : List Char → Bool
  | '.' :: c :: _ => c.isDigit
  | s :: '.' :: c :: _ => (s == '+' || s == '-') && c.isDigit || s.isDigit
  | s :: c :: _ => (s == '+' || s == '-') && c.isDigit || s.isDigit
  | [c] => c.isDigit
  | [] => false

/-- The words that are left to keywords, lest they be taken for them. -/
def reservedWords : List String :=
  ["true", "false", "null", "inf", "-inf", "nan"]

namespace Reader

/-- A bare word. -/
def word : Reader String := do
  let cs ← charsWhile isWordChar
  let s := String.ofList cs
  if cs.isEmpty || startsLikeNumber cs || reservedWords.contains s then failure
  return s

end Reader

/-! ## Escapes -/

/-- A character of a string between quotes: as it stands in the document, or from an escape. -/
inductive StringChar where
  | plain (c : Char)
  | escaped (c : Char)
  deriving DecidableEq, Repr

def StringChar.char : StringChar → Char
  | plain c => c
  | escaped c => c

/-- Where the decoding of escapes stands. -/
inductive EscapeState where
  /-- Outside of any escape. -/
  | outside
  /-- After the backslash. -/
  | opened
  /-- In blank text after a backslash, all of which is dropped. -/
  | blank
  /-- After the letter `u`. -/
  | code
  /-- After so many digits of a code point, which spell `value` so far. -/
  | digits (count value : Nat)

/-- The character that a letter after a backslash stands for. -/
def letterEscape? : Char → Option Char
  | 'n' => some '\n'
  | 'r' => some '\r'
  | 't' => some '\t'
  | '\\' => some '\\'
  | '"' => some '"'
  | 'b' => some '\x08'
  | 'f' => some '\x0c'
  | 's' => some ' '
  | _ => none

/-- The character of a code point, if it is one. -/
def charOfCode? (n : Nat) : Option Char :=
  if n.isValidChar then some (Char.ofNat n) else none

/-- One character outside of any escape. -/
def decodeOutside (c : Char) : EscapeState × List StringChar :=
  if c = '\\' then (.opened, []) else (.outside, [.plain c])

/-- One step of decoding: the next state, and the characters that are complete. -/
def decodeStep (state : EscapeState) (c : Char) : Option (EscapeState × List StringChar) :=
  let isBlank := isSpace c || isLineBreak c
  match state with
  | .outside => some (decodeOutside c)
  | .opened =>
    match letterEscape? c with
    | some d => some (.outside, [.escaped d])
    | none => if c = 'u' then some (.code, []) else if isBlank then some (.blank, []) else none
  | .blank => some (if isBlank then (.blank, []) else decodeOutside c)
  | .code => if c = '\x7b' then some (.digits 0 0, []) else none
  | .digits count value =>
    if c = '\x7d' then
      if count = 0 then none else (charOfCode? value).map fun d => (.outside, [.escaped d])
    else if count < 6 then
      (Text.hexDigit? c).map fun d => (.digits (count + 1) (16 * value + d), [])
    else none

/-- Decodes the escapes in the text between the quotes. -/
def decodeEscapes (state : EscapeState) : List Char → Option (List StringChar)
  | [] =>
    match state with
    | .outside | .blank => some []
    | _ => none
  | c :: cs => do
    let (state, done) ← decodeStep state c
    return done ++ (← decodeEscapes state cs)

/-! ## Several lines -/

/-- The text with every line break as a line feed. -/
def normalizeLineBreaks : List Char → List Char
  | '\r' :: '\n' :: cs => '\n' :: normalizeLineBreaks cs
  | c :: cs => (if isLineBreak c then '\n' else c) :: normalizeLineBreaks cs
  | [] => []

/-- Splits a text at its line feeds, those from escapes excepted. -/
def splitLines : List StringChar → List (List StringChar)
  | [] => [[]]
  | c :: cs =>
    if c = .plain '\n' then [] :: splitLines cs
    else
      match splitLines cs with
      | [] => [[c]]
      | line :: lines => (c :: line) :: lines

/-- Whether a line holds nothing but blanks that stand in the document. -/
def isBlankLine (line : List StringChar) : Bool :=
  line.all fun
    | .plain c => isSpace c
    | .escaped _ => false

/-- A line without the indentation. A line of blanks becomes empty; any other has to start with the
indentation. -/
def unindent? (indentation line : List StringChar) : Option (List StringChar) :=
  if isBlankLine line then some []
  else if indentation.isPrefixOf line then some (line.drop indentation.length)
  else none

/-- The text between quotes in threes. It starts with a line break, and its last line is the
indentation that all other lines share. -/
def ofLines? (body : List StringChar) : Option (List StringChar) :=
  match (splitLines body).reverse with
  | indentation :: lines =>
    if isBlankLine indentation then
      (lines.reverse.mapM (unindent? indentation)).map fun lines =>
        [StringChar.plain '\n'].intercalate lines
    else none
  | [] => none

/-- Removes the line break at the start of a text of several lines. -/
def dropLineBreak? : List Char → Option (List Char)
  | '\n' :: cs => some cs
  | _ => none

/-- A string of several lines, from the text between its quotes. The escapes are decoded by
`decode`. -/
def severalLines? (decode : List Char → Option (List StringChar)) (body : List Char) :
    Option String := do
  let body ← dropLineBreak? (normalizeLineBreaks body)
  let chars ← ofLines? (← decode body)
  return String.ofList (chars.map (·.char))

/-- A string of one line, from the text between its quotes. -/
def oneLine? (decode : List Char → Option (List StringChar)) (body : List Char) :
    Option String := do
  let chars ← decode body
  if chars.any fun
      | .plain c => isLineBreak c
      | .escaped _ => false then failure
  return String.ofList (chars.map (·.char))

/-! ## Quoted strings -/

namespace Reader

/-- The text up to a closing mark, which is read too. A backslash keeps the character after it from
being part of the mark if `escapes` holds. -/
def splitAtMark (escapes : Bool) (mark : List Char) : List Char → Option (List Char × List Char)
  | [] => none
  | '\\' :: c :: cs =>
    if escapes then (splitAtMark escapes mark cs).map fun (body, rest) => ('\\' :: c :: body, rest)
    else (splitAtMark escapes mark (c :: cs)).map fun (body, rest) => ('\\' :: body, rest)
  | c :: cs =>
    if mark.isPrefixOf (c :: cs) then some ([], (c :: cs).drop mark.length)
    else (splitAtMark escapes mark cs).map fun (body, rest) => (c :: body, rest)

/-- A string between quotes, followed by `hashes`. Its opening quote has not been read yet. Three
quotes always open a string of several lines. -/
def quotedWith (escapes : Bool) (hashes : List Char) : Reader String := do
  let decode := if escapes then decodeEscapes .outside else fun cs => some (cs.map .plain)
  let quotes := ['"', '"', '"']
  match ← optionally (literal quotes) with
  | some () =>
    let body ← splitAtMark escapes (quotes ++ hashes)
    StateT.lift (severalLines? decode body)
  | none =>
    char '"'
    let body ← splitAtMark escapes ('"' :: hashes)
    StateT.lift (oneLine? decode body)

/-- A string between quotes, with escapes. -/
def quotedString : Reader String :=
  quotedWith true []

/-- A string between quotes and as many hash signs on either side, without escapes. -/
def rawString : Reader String := do
  let hashes ← charsWhile (· == '#')
  if hashes.isEmpty then failure
  quotedWith false hashes

/-- A string in any form. -/
def string : Reader String :=
  quotedString <|> rawString <|> word

end Reader

end TriggerPlan.Kdl
