import TriggerPlan.Value

/-!
# Declarations

A declaration is a list of blocks. Each node in it has a name, values, some of them under keys, and
possibly a block of nodes of its own. No meaning is attached to names here.
-/

namespace TriggerPlan

/-- A node of a declaration. -/
structure Node where
  name : String
  /-- The values without a key, in order. -/
  arguments : List Value
  /-- The values with a key, in order; a key may be repeated. -/
  properties : List (String × Value)
  /-- The nodes of the block, or `none` if there is no block at all. -/
  block? : Option (List Node)
  deriving Inhabited

namespace Node

/-- The nodes of the block, if there is one. -/
def children (n : Node) : List Node :=
  n.block?.getD []

/-- Whether the node has a value, with a key or without. -/
def hasValues (n : Node) : Bool :=
  !n.arguments.isEmpty || !n.properties.isEmpty

/-- The first value: the first without a key, or else the first with one. -/
def firstValue? (n : Node) : Option Value :=
  n.arguments.head? <|> n.properties.head?.map (·.2)

/-- The values of a node as messages show them. A block is shown where there is no value. -/
def describe (n : Node) : String :=
  let values :=
    n.arguments.map Value.display ++ n.properties.map fun p => p.1 ++ "=" ++ p.2.display
  if values.isEmpty && n.block?.isSome then "\x7b ... \x7d" else " ".intercalate values

end Node

/-- The blocks of a declaration, in order. -/
structure Declaration where
  blocks : List Node
  deriving Inhabited

end TriggerPlan
