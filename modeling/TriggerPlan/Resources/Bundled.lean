import TriggerPlan.Resources.Source
import TriggerPlan.Resources.Templates
import TriggerPlan.Resources.Wrapper
import TriggerPlan.Resources.WrapperJar
import TriggerPlan.Text.Hex

/-!
# Bundled resources

The resources that come with the program. They are found under their names, in which a backslash
counts as a slash.
-/

namespace TriggerPlan.Resources

/-- The bytes of a text whose lines end in `lineEnd`. -/
def textFile (lineEnd : String) (lines : List String) : ByteArray :=
  (String.join (lines.map (· ++ lineEnd))).toUTF8

/-- The bytes of the wrapper archive. -/
def wrapperJar : ByteArray :=
  (Text.bytesOfHex? (String.join wrapperJarHex)).getD .empty

/-- The bundled files with their names. -/
def bundledFiles : List (String × ByteArray) :=
  [("build.gradle.vtl", textFile "\n" buildTemplate),
    ("gradle.properties.vtl", textFile "\n" propertiesTemplate),
    ("settings.gradle.vtl", textFile "\n" settingsTemplate),
    ("gradlew", textFile "\n" posixScript),
    ("gradlew.bat", textFile "\r\n" windowsScript),
    ("gradle/wrapper/gradle-wrapper.jar", wrapperJar),
    ("gradle/wrapper/gradle-wrapper.properties", textFile "\n" wrapperProperties)]

/-- The bundled resources. -/
def bundled : ResourceSource :=
  ⟨fun name =>
    bundledFiles.lookup (String.ofList (name.toList.map fun c => if c = '\\' then '/' else c))⟩

end TriggerPlan.Resources
