import TriggerPlan.Model.View
import TriggerPlan.Path

/-!
# Layout of a build

Where the files of a trigger lie under the build root: a directory for the trigger, one for its
templates, and an archive, which is named after the trigger.
-/

namespace TriggerPlan

/-- The paths of one trigger. -/
structure Layout where
  triggerDir : Path
  templatesDir : Path
  archive : Path
  deriving DecidableEq, Repr

namespace Layout

/-- The way from the directories of the layout to those of one trigger. -/
def relativePath (repository hostname : String) : Path :=
  (Path.mk repository).child hostname

/-- The paths of the trigger that a repository has for a host, under a build root. -/
def of (buildRoot : Path) (repository hostname : String) (name : TriggerName) : Layout :=
  let relative := relativePath repository hostname
  { triggerDir := (buildRoot.child "triggers").join relative
    templatesDir := (buildRoot.child "vtl").join relative
    archive := (buildRoot.child "distributions").child (name.text ++ ".zip") }

end Layout

end TriggerPlan
