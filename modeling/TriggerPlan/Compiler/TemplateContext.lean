import TriggerPlan.Context
import TriggerPlan.Model.View
import TriggerPlan.Path

/-!
# The context of a trigger

The context that the templates of a trigger are rendered with. Its fifteen keys are the same for
every trigger; where nothing defines a value, the key has none.
-/

namespace TriggerPlan

/-- What a build passes to its triggers unchanged. -/
structure ProjectProperties where
  /-- The directory above everything that is generated. -/
  buildRoot : Path := ⟨"build"⟩
  clientName : Option String := none
  /-- The version that the triggers deploy. -/
  release : Option String := none
  systemName : Option String := none
  toolVersion : Option String := some "0.1.0"
  deriving DecidableEq, Repr

/-- The entries of the context of a trigger. -/
def View.contextEntries (v : View) (properties : ProjectProperties) :
    List (String × Option String) :=
  [("baseDirectory", v.text .baseDirectory),
    ("clientName", properties.clientName),
    ("mavenContextUrl", v.repository.contextUrl),
    ("mavenRepoKey", v.repository.repoKey),
    ("release", properties.release),
    ("releaseArtifactId", v.text .releaseArtifact),
    ("releaseGroupId", v.text .group),
    ("stagingArtifactId", v.text .stagingArtifact),
    ("stagingArtifactPackaging", some v.stagingArtifactPackaging),
    ("stagingArtifactType", v.text .stagingArtifactType),
    ("stagingGroupId", v.text .group),
    ("stagingTaskArg", v.text .stagingTask),
    ("systemName", properties.systemName),
    ("toolVersion", properties.toolVersion),
    ("versionHistorySize", some (toString v.versionHistorySize.toNat))]

/-- The context of a trigger. -/
def View.context (v : View) (properties : ProjectProperties) : Context :=
  .ofList (v.contextEntries properties)

end TriggerPlan
