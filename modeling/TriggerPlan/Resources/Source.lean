/-!
# Resources

Resources are files known by relative paths with slashes. Where their bytes come from is left to a
source; what the steps of a trigger copy is a fixed list of names.
-/

namespace TriggerPlan

/-! ## Sources -/

/-- Where the bytes of resources come from. -/
structure ResourceSource where
  /-- The bytes of the resource of that name, if the source has it. -/
  load : String → Option ByteArray

namespace ResourceSource

/-- Whether the source has a resource of that name. -/
def contains (s : ResourceSource) (name : String) : Bool :=
  (s.load name).isSome

/-- The source that has exactly the files of a list. -/
def ofList (files : List (String × ByteArray)) : ResourceSource :=
  ⟨fun name => files.lookup name⟩

/-- The source without the resources of some names. -/
def without (s : ResourceSource) (names : List String) : ResourceSource :=
  ⟨fun name => if names.contains name then none else s.load name⟩

end ResourceSource

/-! ## Names of the resources that triggers need -/

/-- The files of the build wrapper, which every trigger directory gets. -/
def wrapperResources : List String :=
  ["gradlew", "gradlew.bat", "gradle/wrapper/gradle-wrapper.jar",
    "gradle/wrapper/gradle-wrapper.properties"]

/-- The wrapper files that are marked executable. -/
def executableResources : List String :=
  ["gradlew"]

/-- The templates, which every directory of templates gets. -/
def templateResources : List String :=
  ["build.gradle.vtl", "gradle.properties.vtl", "settings.gradle.vtl"]

end TriggerPlan
