import TriggerPlan.Compiler.Basic
import TriggerPlan.Declaration.Basic

/-!
# Resolution of declarations

A declaration is resolved into the entity model and the pipelines of its triggers. On each level the
setting nodes come first, in order, and then the entities, in order. A node is a setting if it has a
value and its name is a key of its level; any other node declares an entity. So a bare `group` is a
host or a repository of that name. A trigger is compiled as soon as its node is resolved, with the
global layer as it is after the first pass, and the first error ends the resolution.
-/

namespace TriggerPlan

/-! ## Errors about nodes -/

/-- The error about an entity node that has a value where it needs a block. -/
def Node.notABlock (path : String) (n : Node) : Error :=
  let value := n.firstValue?
  .invalidConfiguration path n.name ((value.map Value.display).getD "")
    ("must be configured with a block, got " ++ (value.map Value.typeName).getD "nothing")

/-- The error about a node with a value among the entities of the root: a key that only repositories
have, or something that is no setting at all. -/
def Node.misplaced (n : Node) : Error :=
  if n.name = RepositoryKey.contextUrl.name ∨ n.name = RepositoryKey.repoKey.name then
    .invalidConfiguration rootPath n.name n.describe
      (n.name ++ " is only valid inside a repository block")
  else n.notABlock rootPath

/-- The value of a setting node, which is its only argument. -/
def Node.settingValue (path : String) (n : Node) : Except Error Value :=
  match n.arguments, n.properties, n.block? with
  | [v], [], none => .ok v
  | _, _, _ =>
    .error (.invalidConfiguration path n.name n.describe
      "settings take exactly one argument and no block")

/-! ## Settings -/

/-- The attribute that a node sets on any level. -/
def Node.setting? (n : Node) : Option SettingKey :=
  if n.hasValues then SettingKey.ofName? n.name else none

/-- What a node sets inside a repository. -/
def Node.repositorySetting? (n : Node) : Option RepositoryKey :=
  if n.hasValues then RepositoryKey.ofName? n.name else none

/-- The layer of the entity at `path` after a node that sets `key`. -/
def Layer.applyNode (l : Layer) (path : String) (key : SettingKey) (n : Node) :
    Except Error Layer := do
  l.assign path key (← n.settingValue path)

/-- The layer after the setting nodes among some nodes, in order. -/
def Layer.applySettings (l : Layer) (path : String) (nodes : List Node) : Except Error Layer :=
  nodes.foldlM (fun l n =>
    match n.setting? with
    | some key => l.applyNode path key n
    | none => .ok l) l

/-- The layer of a host after its nodes, in order. All of them have to be settings. -/
def Layer.applyHostNodes (l : Layer) (path : String) (nodes : List Node) : Except Error Layer :=
  nodes.foldlM (fun l n =>
    match SettingKey.ofName? n.name with
    | some key => l.applyNode path key n
    | none =>
      .error (.invalidConfiguration path n.name n.describe "hosts only accept settings")) l

/-- The repository after a node that sets `key`. -/
def Repository.applyNode (r : Repository) (key : RepositoryKey) (n : Node) :
    Except Error Repository := do
  let v ← n.settingValue r.path
  match key with
  | .contextUrl => return { r with contextUrl := ← Layer.textOfValue r.path n.name v }
  | .repoKey => return { r with repoKey := ← Layer.textOfValue r.path n.name v }
  | .setting key => return { r with settings := ← r.settings.assign r.path key v }

/-- The repository after the setting nodes among some nodes, in order. -/
def Repository.applySettings (r : Repository) (nodes : List Node) : Except Error Repository :=
  nodes.foldlM (fun r n =>
    match n.repositorySetting? with
    | some key => r.applyNode key n
    | none => .ok r) r

/-! ## Entities -/

/-- The model that a declaration describes, and the pipelines of its triggers in the order in which
they were compiled. -/
structure Resolution where
  model : Model
  pipelines : List Pipeline

namespace Resolution

/-- The first pipeline of the trigger of that name. -/
def pipeline? (r : Resolution) (name : String) : Option Pipeline :=
  r.pipelines.find? (·.trigger.text == name)

def triggerCount (r : Resolution) : Nat :=
  r.pipelines.length

end Resolution

namespace Compiler

/-- The pipeline of the trigger that a repository has for a host. If there is no such trigger, there
is nothing to compile. The global layer is `defaults`. -/
def compileHost (c : Compiler) (defaults : Layer) (r : Repository) (hostname : String) :
    Except Error (Option Pipeline) :=
  match r.trigger? hostname with
  | some t => some <$> c.compile ⟨defaults, r, t⟩
  | none => .ok none

/-- The repository with the trigger that a host node declares, and the pipeline of the trigger, which
is looked up again once its settings are there. -/
def resolveHost (c : Compiler) (defaults : Layer) (r : Repository) (n : Node) :
    Except Error (Repository × Option Pipeline) := do
  if n.hasValues then
    throw (n.notABlock r.path)
  let created ← r.createTrigger n.name
  let t := Trigger.new r.name n.name
  let settings ← t.settings.applyHostNodes t.path n.children
  let r := created.putTrigger { t with settings := settings }
  return (r, ← c.compileHost defaults r n.name)

/-- The repository with the triggers that the host nodes among some nodes declare, and their
pipelines in order. -/
def resolveHosts (c : Compiler) (defaults : Layer) (r : Repository) (nodes : List Node) :
    Except Error (Repository × List Pipeline) :=
  (nodes.filter (·.repositorySetting?.isNone)).foldlM (fun (r, ps) n => do
    let (r, p) ← c.resolveHost defaults r n
    return (r, ps ++ p.toList)) (r, [])

/-- The repository that a node declares, and the pipelines of its triggers. -/
def resolveRepository (c : Compiler) (defaults : Layer) (n : Node) :
    Except Error (Repository × List Pipeline) := do
  let r ← (Repository.new n.name).applySettings n.children
  c.resolveHosts defaults r n.children

/-- The resolution with the repository that a node declares, and its pipelines. The global layer is
`defaults`. -/
def addRepository (c : Compiler) (defaults : Layer) (done : Resolution) (n : Node) :
    Except Error Resolution := do
  if n.hasValues then
    throw n.misplaced
  done.model.checkRepositoryName n.name
  let (r, ps) ← c.resolveRepository defaults n
  return ⟨done.model.putRepository r, done.pipelines ++ ps⟩

/-- The resolution of a declaration. The nodes of all blocks are taken together. -/
def resolve (c : Compiler) (d : Declaration) : Except Error Resolution := do
  if let some block := d.blocks.find? (·.hasValues) then
    throw (block.notABlock rootPath)
  let nodes := d.blocks.flatMap (·.children)
  let defaults ← Model.new.settings.applySettings rootPath nodes
  (nodes.filter (·.setting?.isNone)).foldlM (c.addRepository defaults)
    ⟨{ Model.new with settings := defaults }, []⟩

end Compiler

end TriggerPlan
