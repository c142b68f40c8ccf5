import TriggerPlan.Kdl.Reader
import TriggerPlan.Text.CodeRange

/-!
# Space, line breaks and comments

What separates the parts of a KDL document. Space within a node is made of blanks, comments between
`/*` and `*/`, which nest, and line continuations; between nodes there are also line breaks and
comments that run to the end of their line.
-/

namespace TriggerPlan.Kdl

/-! ## Classes of characters -/

/-- The line breaks of one character. A carriage return and the line feed after it are one break. -/
def isLineBreak (c : Char) : Bool :=
  CodeRange.anyContains [⟨0x0a, 0x0d⟩, ⟨0x85, 0x85⟩, ⟨0x2028, 0x2029⟩] c

/-- The characters of a blank within a line. -/
def isSpace (c : Char) : Bool :=
  CodeRange.anyContains [⟨0x09, 0x09⟩, ⟨0x20, 0x20⟩, ⟨0xa0, 0xa0⟩, ⟨0x1680, 0x1680⟩,
    ⟨0x2000, 0x200a⟩, ⟨0x202f, 0x202f⟩, ⟨0x205f, 0x205f⟩, ⟨0x3000, 0x3000⟩] c

/-- The characters that no part of a document may hold, comments included. -/
def isForbidden (c : Char) : Bool :=
  CodeRange.anyContains [⟨0x00, 0x08⟩, ⟨0x0e, 0x1f⟩, ⟨0x200e, 0x200f⟩, ⟨0x202a, 0x202e⟩,
    ⟨0x2066, 0x2069⟩, ⟨0xfeff, 0xfeff⟩] c

namespace Reader

/-! ## Line breaks and comments -/

def lineBreak : Reader Unit :=
  literal ['\r', '\n'] <|> discard (charWhere isLineBreak)

/-- What follows the end of a comment whose start has been read already, and in which `depth` more
comments are open. -/
def afterComment (depth : Nat) : List Char → Option (List Char)
  | '*' :: '/' :: cs =>
    match depth with
    | 0 => some cs
    | d + 1 => afterComment d cs
  | '/' :: '*' :: cs => afterComment (depth + 1) cs
  | _ :: cs => afterComment depth cs
  | [] => none

/-- A comment between `/*` and `*/`. -/
def enclosedComment : Reader Unit := do
  literal ['/', '*']
  fun cs => (afterComment 0 cs).map ((), ·)

/-- A comment that runs to the end of its line, with the line break. -/
def lineComment : Reader Unit := do
  literal ['/', '/']
  let _ ← charsWhile (!isLineBreak ·)
  lineBreak <|> atEnd

/-! ## Space -/

/-- A blank or a comment within a line. -/
def blank : Reader Unit :=
  discard (charWhere isSpace) <|> enclosedComment

/-- A backslash that joins the next line to this one. -/
def lineContinuation : Reader Unit := do
  char '\\'
  skipMany blank
  lineComment <|> lineBreak <|> atEnd

/-- One piece of the space within a node. -/
def nodeSpace : Reader Unit :=
  blank <|> lineContinuation

/-- One piece of the space between nodes. -/
def lineSpace : Reader Unit :=
  nodeSpace <|> lineBreak <|> lineComment

/-- The mark that comments out the part after it, with any space between the two. -/
def slashDash : Reader Unit := do
  literal ['/', '-']
  skipMany lineSpace

end Reader

end TriggerPlan.Kdl
