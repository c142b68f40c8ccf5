import Mathlib.Data.List.Basic
import TriggerPlan.Proofs.Path
import TriggerPlan.Resources.Source

/-!
# The resources of triggers

The seven resources that every trigger needs, one by one: four files of the wrapper and three
templates. Their paths are relative and have different base names.
-/

namespace TriggerPlan

/-- The resources that a trigger needs. -/
def neededResources : List String :=
  ["gradlew", "gradlew.bat", "gradle/wrapper/gradle-wrapper.jar",
    "gradle/wrapper/gradle-wrapper.properties", "build.gradle.vtl", "gradle.properties.vtl",
    "settings.gradle.vtl"]

/-- They are the files of the wrapper, and then the templates. -/
theorem wrapperResources_append_templateResources :
    wrapperResources ++ templateResources = neededResources := rfl

theorem wrapperResources_subset : wrapperResources ⊆ neededResources :=
  List.subset_append_left wrapperResources templateResources

theorem templateResources_subset : templateResources ⊆ neededResources :=
  List.subset_append_right wrapperResources templateResources

/-- The bytes of a resource; none if the source does not have it. -/
def ResourceSource.bytes (s : ResourceSource) (name : String) : ByteArray :=
  (s.load name).getD .empty

theorem isAbsolute_of_mem_neededResources :
    ∀ r ∈ neededResources, (Path.mk r).isAbsolute = false := by
  decide +kernel

/-- No two of the resources have the same base name. -/
theorem nodup_baseNames :
    (neededResources.map fun r => (Path.mk r).steps.getLast?).Nodup := by
  decide +kernel

end TriggerPlan
