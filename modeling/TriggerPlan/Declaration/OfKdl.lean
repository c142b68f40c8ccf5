import TriggerPlan.Declaration.Basic
import TriggerPlan.Kdl.Document

/-!
# Declarations in KDL

A KDL document declares the blocks that its top-level nodes of the name `triggers` make up; all
other nodes on the top level are ignored. Arguments and properties, which the document has in one
list, are told apart, each kept in order.
-/

namespace TriggerPlan

/-- The declared value of a KDL value. It is asked for the content of each type in turn, and is null
if it has none. -/
def Value.ofKdl (v : Kdl.Value) : Value :=
  if let some text := v.string? then .string text
  else if let some i := v.integer? then .integer i
  else if let some x := v.float? then .float x
  else if let some b := v.boolean? then .boolean b
  else .null

/-- The values of the entries without a key. -/
def argumentsOfEntries (entries : List Kdl.Entry) : List Value :=
  entries.filterMap fun e =>
    match e.key? with
    | none => some (.ofKdl e.value)
    | some _ => none

/-- The keys and values of the entries with a key. -/
def propertiesOfEntries (entries : List Kdl.Entry) : List (String × Value) :=
  entries.filterMap fun e => e.key?.map fun key => (key, .ofKdl e.value)

mutual

/-- The declared node of a KDL node. -/
def Node.ofKdl : Kdl.Node → Node
  | .mk name entries block? =>
    { name := name
      arguments := argumentsOfEntries entries
      properties := propertiesOfEntries entries
      block? := Node.blockOfKdl block? }

/-- The declared nodes of the block of a KDL node. -/
def Node.blockOfKdl : Option (List Kdl.Node) → Option (List Node)
  | none => none
  | some nodes => some (Node.listOfKdl nodes)

/-- The declared nodes of KDL nodes, one for each, in order. -/
def Node.listOfKdl : List Kdl.Node → List Node
  | [] => []
  | n :: ns => Node.ofKdl n :: Node.listOfKdl ns

end

theorem Node.listOfKdl_eq_map (ns : List Kdl.Node) : Node.listOfKdl ns = ns.map Node.ofKdl := by
  induction ns with
  | nil => rfl
  | cons n ns ih => rw [Node.listOfKdl, ih, List.map_cons]

theorem Node.blockOfKdl_eq_map (b : Option (List Kdl.Node)) :
    Node.blockOfKdl b = b.map (·.map Node.ofKdl) := by
  cases b with
  | none => rfl
  | some ns => rw [Node.blockOfKdl, Node.listOfKdl_eq_map, Option.map_some]

/-- The name that the blocks of a declaration have. -/
def blockName : String := "triggers"

/-- The declaration that a KDL document makes. -/
def Declaration.ofDocument (d : Kdl.Document) : Declaration :=
  ⟨(d.nodes.filter (·.name == blockName)).map Node.ofKdl⟩

end TriggerPlan
