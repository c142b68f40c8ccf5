import TriggerPlan.Model.Name
import TriggerPlan.Settings.Layer
import TriggerPlan.SortedMap

/-!
# The entity model

The model has three levels: the global settings, the repositories, and for each repository its
triggers, one for each host. Every level owns a layer of settings. Repositories are kept under their
names and triggers under their hostnames, in increasing order.
-/

namespace TriggerPlan

/-! ## Triggers -/

/-- One host of one repository. -/
structure Trigger where
  hostname : String
  name : TriggerName
  path : String
  settings : Layer
  deriving DecidableEq, Repr, Inhabited

/-- The trigger of a repository for a host, with nothing set. -/
def Trigger.new (repository hostname : String) : Trigger :=
  ⟨hostname, .of repository hostname, triggerPath repository hostname, .empty⟩

/-! ## Repositories -/

/-- A repository and the triggers it has. -/
structure Repository where
  name : String
  contextUrl : Option String
  repoKey : Option String
  settings : Layer
  triggers : SortedMap String Trigger
  deriving DecidableEq, Inhabited

namespace Repository

/-- The repository of that name, with nothing set and no trigger. -/
def new (name : String) : Repository :=
  ⟨name, none, none, .empty, .empty⟩

def path (r : Repository) : String :=
  repositoryPath r.name

/-- The trigger for a host. -/
def trigger? (r : Repository) (hostname : String) : Option Trigger :=
  r.triggers.get? hostname

/-- The repository with the trigger put under its hostname. -/
def putTrigger (r : Repository) (t : Trigger) : Repository :=
  { r with triggers := r.triggers.insert t.hostname t }

/-- Adds a trigger for a host. The name must not be blank, and no other trigger of the repository
may have it. -/
def createTrigger (r : Repository) (hostname : String) : Except Error Repository := do
  checkName r.path hostname
  if r.triggers.contains hostname then
    throw (.duplicateEntity r.name .host hostname)
  return r.putTrigger (.new r.name hostname)

end Repository

/-! ## Models -/

/-- The global settings and the repositories. -/
structure Model where
  settings : Layer
  repositories : SortedMap String Repository
  deriving DecidableEq, Inhabited

namespace Model

/-- The model without repositories, with the built-in global settings. -/
def new : Model :=
  ⟨.globalDefaults, .empty⟩

/-- The repository of that name. -/
def repository? (m : Model) (name : String) : Option Repository :=
  m.repositories.get? name

/-- The trigger that a repository has for a host. -/
def trigger? (m : Model) (repository hostname : String) : Option Trigger :=
  (m.repository? repository).bind (·.trigger? hostname)

/-- The model with the repository put under its name. -/
def putRepository (m : Model) (r : Repository) : Model :=
  { m with repositories := m.repositories.insert r.name r }

/-- Accepts the name of a new repository: it must not be blank, and no other repository may have
it. -/
def checkRepositoryName (m : Model) (name : String) : Except Error Unit := do
  checkName rootPath name
  if m.repositories.contains name then
    throw (.duplicateEntity rootPath .repository name)

/-- Adds a repository. -/
def createRepository (m : Model) (name : String) : Except Error Model := do
  m.checkRepositoryName name
  return m.putRepository (.new name)

end Model

end TriggerPlan
