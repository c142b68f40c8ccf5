import TriggerPlan.Json.Writer
import TriggerPlan.SortedMap

/-!
# Template contexts

A context gives templates their values. Its keys are kept in increasing order. A key may be present
without a value, which is not the same as being absent.
-/

namespace TriggerPlan

/-- The values that templates are rendered with. -/
abbrev Context := SortedMap String (Option String)

namespace Context

/-- The context as a JSON object, with `null` for a key without a value. -/
def toJson (c : Context) : Json :=
  .object (c.toList.map fun e => (e.1, .ofStringOrNull e.2))

/-- Reads a context from a JSON object whose fields are texts or `null`. -/
def ofJson? : Json → Option Context
  | .object fields =>
    SortedMap.ofList <$> fields.mapM fun e => (e.1, ·) <$> e.2.stringOrNull?
  | _ => none

end Context

end TriggerPlan
