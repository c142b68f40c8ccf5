import TriggerPlan.Error
import TriggerPlan.Text.Blank
import TriggerPlan.Text.Quoted
import TriggerPlan.Text.UpperCase

/-!
# Names and paths of entities

Entities are named by texts that are not blank. The path of an entity lists the names from the root
down to it; messages use it to say what they are about.
-/

namespace TriggerPlan

/-! ## Paths -/

/-- The name of the root block, with which every entity path starts. -/
def rootPath : String := "triggers"

/-- The path of a repository. -/
def repositoryPath (repository : String) : String :=
  rootPath ++ "/" ++ repository

/-- The path of the trigger that a repository has for a host. -/
def triggerPath (repository hostname : String) : String :=
  rootPath ++ "/" ++ repository ++ "/" ++ hostname

theorem repositoryPath_eq (repository : String) :
    repositoryPath repository = "triggers/" ++ repository := rfl

theorem triggerPath_eq (repository hostname : String) :
    triggerPath repository hostname = "triggers/" ++ repository ++ "/" ++ hostname := rfl

/-! ## Names -/

/-- Accepts the name of an entity below `parent` unless it is blank. -/
def checkName (parent name : String) : Except Error Unit :=
  if Text.isBlank name then
    .error (.invalidConfiguration parent "name" (Text.quoted name)
      "entity names must not be empty")
  else .ok ()

theorem checkName_eq_ok_iff {parent name : String} :
    checkName parent name = .ok () ↔ Text.isBlank name = false := by
  unfold checkName
  split <;> simp_all

/-- The name of a trigger among all triggers. -/
structure TriggerName where
  text : String
  deriving DecidableEq, Repr, Inhabited

/-- The name of the trigger that a repository has for a host: the name of the repository followed by
the hostname with its first character in upper case. -/
def TriggerName.of (repository hostname : String) : TriggerName :=
  ⟨repository ++ Text.capitalize hostname⟩

end TriggerPlan
