import TriggerPlan.Binary64.Shortest
import TriggerPlan.Text.Quoted

/-!
# Declared values

The scalar values that a declaration attaches to its nodes, independent of the syntax they were
written in.
-/

namespace TriggerPlan

/-- A scalar value. -/
inductive Value where
  | string (text : String)
  | integer (i : Int)
  | float (x : Binary64)
  | boolean (b : Bool)
  | null
  deriving DecidableEq, Repr, Inhabited

namespace Value

/-- The name of the value's type, as messages use it. -/
def typeName : Value → String
  | string _ => "string"
  | integer _ => "integer"
  | float _ => "float"
  | boolean _ => "boolean"
  | null => "null"

/-- The value as messages show it: strings quoted, numbers in decimal. -/
def display : Value → String
  | string s => Text.quoted s
  | integer i => toString i
  | float x => x.toText
  | boolean true => "true"
  | boolean false => "false"
  | null => "null"

/-- The text of a string value. -/
def text? : Value → Option String
  | string s => some s
  | _ => none

end Value

end TriggerPlan
