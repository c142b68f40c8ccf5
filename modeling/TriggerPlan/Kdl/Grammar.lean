import TriggerPlan.Kdl.Document
import TriggerPlan.Kdl.Number
import TriggerPlan.Kdl.Text

/-!
# The grammar of KDL

Values, nodes and documents. A node ends at a line break, a semicolon, a comment to the end of the
line, the end of its block or the end of the document. After the name of a node come its entries and
then its block; each of them can be commented out by a slash and a dash, and blocks that are
commented out can also stand before and after the one that counts.
-/

namespace TriggerPlan.Kdl

namespace Reader

/-! ## Values and entries -/

/-- The value of a keyword without its hash sign. -/
def keywordValue? (word : String) : Option Value :=
  [("true", .boolean true), ("false", .boolean false), ("null", .null),
    ("inf", .float (.infinity false)), ("-inf", .float (.infinity true)),
    ("nan", .float .nan)].lookup word

/-- A keyword. -/
def keyword : Reader Value := do
  char '#'
  let word ← charsWhile isWordChar
  StateT.lift (keywordValue? (String.ofList word))

/-- A type annotation. It is checked and dropped. -/
def typeAnnotation : Reader Unit := do
  char '('
  skipMany nodeSpace
  let _ ← string
  skipMany nodeSpace
  char ')'

/-- A value with an optional type annotation. -/
def value : Reader Value := do
  let _ ← optionally (do typeAnnotation; skipMany nodeSpace)
  number <|> keyword <|> .string <$> string

/-- A property: a key, an equals sign and a value. -/
def property : Reader Entry := do
  let key ← string
  skipMany nodeSpace
  char '='
  skipMany nodeSpace
  return ⟨some key, ← value⟩

/-- An argument or a property. -/
def entry : Reader Entry :=
  property <|> (⟨none, ·⟩) <$> value

/-! ## Nodes -/

/-- An entry after some space; none if it is commented out. -/
def spacedEntry : Reader (Option Entry) := do
  skipSome nodeSpace
  (do slashDash; let _ ← entry; return none) <|> some <$> entry

/-- A block that is commented out. -/
def droppedBlock (block : Reader (List Node)) : Reader Unit := do
  skipMany nodeSpace
  slashDash
  let _ ← block

/-- A node without what ends it. -/
def node (block : Reader (List Node)) : Reader Node := do
  let _ ← optionally (do typeAnnotation; skipMany nodeSpace)
  let name ← string
  let entries ← many spacedEntry
  skipMany (droppedBlock block)
  let block? ← optionally (do skipMany nodeSpace; block)
  skipMany (droppedBlock block)
  skipMany nodeSpace
  return .mk name (entries.filterMap id) block?

/-- What ends a node. The end of a block is left for the block. -/
def nodeEnd : Reader Unit :=
  lineBreak <|> char ';' <|> lineComment <|> before '\x7d' <|> atEnd

/-- A node with what ends it, after any space between nodes; none if it is commented out. -/
def spacedNode (block : Reader (List Node)) : Reader (Option Node) := do
  skipMany lineSpace
  let dropped ← optionally slashDash
  let n ← node block
  nodeEnd
  return if dropped.isSome then none else some n

/-- The nodes of a block or a document, whose blocks are nested at most `depth` deep. -/
def nodes : Nat → Reader (List Node)
  | 0 => failure
  | depth + 1 => do
    let block : Reader (List Node) := do
      char '\x7b'
      let ns ← nodes depth
      char '\x7d'
      return ns
    let ns ← many (spacedNode block)
    skipMany lineSpace
    return ns.filterMap id

end Reader

/-! ## Documents -/

/-- Reads a document. A byte order mark may stand before it. Blocks cannot be nested deeper than
there are opening braces. -/
def read? (text : String) : Option Document :=
  let cs :=
    match text.toList with
    | '\ufeff' :: rest => rest
    | cs => cs
  if cs.any isForbidden then none
  else
    match Reader.nodes (cs.count '\x7b' + 1) cs with
    | some (ns, []) => some ⟨ns⟩
    | _ => none

end TriggerPlan.Kdl
