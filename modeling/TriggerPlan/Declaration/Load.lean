import TriggerPlan.Declaration.OfKdl
import TriggerPlan.Kdl.Grammar
import TriggerPlan.Resolution

/-!
# Loading declarations

From the bytes of a declaration file to its resolution: the bytes are decoded, the text is read as
KDL, and the declaration is resolved.
-/

namespace TriggerPlan

/-- Why a declaration could not be loaded. -/
inductive LoadError where
  /-- The text is no KDL document. -/
  | malformed
  /-- The declaration was refused. -/
  | refused (error : Error)
  /-- The file could not be read. -/
  | unreadable (cause : FileError)
  deriving DecidableEq, Repr

namespace LoadError

/-- What is wrong with a text that is no KDL document. -/
def malformedText : String := "Failed to parse KDL document"

/-- The text of the error. -/
def message : LoadError → String
  | malformed => "KDL parse error: " ++ malformedText
  | refused error => error.message
  | unreadable cause => "IO error: " ++ cause.message

/-- The class of the error. What concerns the file as a whole counts as invalid configuration. -/
def kind : LoadError → String
  | refused error => error.kind
  | _ => "InvalidConfiguration"

/-- The texts of the error and of what caused it, the outermost first. -/
def messages (e : LoadError) : List String :=
  match e with
  | malformed => [e.message, malformedText]
  | refused error => error.messages
  | unreadable cause => [e.message, cause.message]

end LoadError

/-- Reads a declaration from KDL text, which a parser makes into a document. -/
def Declaration.readWith (parse? : String → Option Kdl.Document) (kdl : String) :
    Except LoadError Declaration :=
  match parse? kdl with
  | some d => .ok (.ofDocument d)
  | none => .error .malformed

/-- Reads a declaration from KDL text. -/
def Declaration.read (kdl : String) : Except LoadError Declaration :=
  readWith Kdl.read? kdl

namespace Compiler

/-- Reads a declaration from KDL text and resolves it. -/
def resolveText (c : Compiler) (kdl : String) : Except LoadError Resolution := do
  let d ← Declaration.read kdl
  (c.resolve d).mapError .refused

/-- Resolves the declaration in a file, from what reading the file gave. -/
def resolveContent (c : Compiler) (content : Except FileError ByteArray) :
    Except LoadError Resolution := do
  let bytes ← content.mapError .unreadable
  match String.fromUTF8? bytes with
  | some kdl => c.resolveText kdl
  | none => throw (.unreadable .notUtf8)

end Compiler

end TriggerPlan
