import TriggerPlan.Binary64.Basic

/-!
# KDL documents

A KDL document as a tree. A node has a name, entries in order, and possibly a block of nodes. An
entry is a value, with a key if it is a property and without one if it is an argument. Type
annotations and the form in which a value was written are not kept.
-/

namespace TriggerPlan.Kdl

/-- A value of a KDL document. -/
inductive Value where
  | string (text : String)
  | integer (i : Int)
  | float (x : Binary64)
  | boolean (b : Bool)
  | null
  deriving DecidableEq, Repr, Inhabited

namespace Value

/-- The text, if the value is a string. -/
def string? : Value → Option String
  | string text => some text
  | _ => none

/-- The number, if the value is an integer. -/
def integer? : Value → Option Int
  | integer i => some i
  | _ => none

/-- The number, if the value is a float. -/
def float? : Value → Option Binary64
  | float x => some x
  | _ => none

def boolean? : Value → Option Bool
  | boolean b => some b
  | _ => none

end Value

/-- An argument, or a property if there is a key. -/
structure Entry where
  key? : Option String
  value : Value
  deriving DecidableEq, Repr, Inhabited

/-- A node of a KDL document. -/
inductive Node where
  | mk (name : String) (entries : List Entry) (block? : Option (List Node))
  deriving Inhabited

def Node.name : Node → String
  | mk name _ _ => name

def Node.entries : Node → List Entry
  | mk _ entries _ => entries

/-- The nodes of the block, or `none` if there is no block at all. -/
def Node.block? : Node → Option (List Node)
  | mk _ _ block? => block?

/-- A KDL document: the nodes on its top level. -/
structure Document where
  nodes : List Node
  deriving Inhabited

end TriggerPlan.Kdl
