/-!
# Templates

The templates of the build files of a trigger. Words in braces after a dollar sign are filled in
from the template context.
-/

namespace TriggerPlan.Resources

/-- The template of the build script. -/
def buildTemplate : List String :=
  ["plugins \x7b",
    "    id 'base'",
    "\x7d",
    "",
    "group = '$\x7breleaseGroupId\x7d'",
    "version = '$\x7brelease\x7d'",
    "",
    "ext \x7b",
    "    baseDirectory = '$!\x7bbaseDirectory\x7d'",
    "    clientName = '$!\x7bclientName\x7d'",
    "    systemName = '$!\x7bsystemName\x7d'",
    "    stagingTaskArg = '$!\x7bstagingTaskArg\x7d'",
    "    versionHistorySize = $\x7bversionHistorySize\x7d",
    "    toolVersion = '$!\x7btoolVersion\x7d'",
    "\x7d",
    "",
    "repositories \x7b",
    "    maven \x7b",
    "        url \"$\x7bmavenContextUrl\x7d/$\x7bmavenRepoKey\x7d\"",
    "    \x7d",
    "\x7d",
    "",
    "configurations \x7b",
    "    staging",
    "    release",
    "\x7d",
    "",
    "dependencies \x7b",
    "    staging group: '$\x7bstagingGroupId\x7d', name: '$\x7bstagingArtifactId\x7d', version: project.version,",
    "        classifier: '$\x7bstagingArtifactPackaging\x7d', ext: '$\x7bstagingArtifactType\x7d'",
    "    release group: '$\x7breleaseGroupId\x7d', name: '$\x7breleaseArtifactId\x7d', version: project.version",
    "\x7d",
    "",
    "def deploymentDir = file(\"$\x7bbaseDirectory\x7d/$\x7bstagingArtifactPackaging\x7d\")",
    "",
    "tasks.register('stage', Copy) \x7b",
    "    description = 'Unpacks the staging artifact into the deployment directory.'",
    "    from \x7b configurations.staging.collect \x7b zipTree(it) \x7d \x7d",
    "    into new File(deploymentDir, project.version.toString())",
    "\x7d",
    "",
    "tasks.register('prune') \x7b",
    "    description = 'Removes deployed versions beyond the version history size.'",
    "    doLast \x7b",
    "        def versions = (deploymentDir.listFiles() ?: [] as File[])",
    "            .findAll \x7b it.isDirectory() \x7d",
    "            .sort \x7b -it.lastModified() \x7d",
    "        versions.drop(versionHistorySize as int).each \x7b it.deleteDir() \x7d",
    "    \x7d",
    "\x7d",
    "",
    "tasks.register('deploy') \x7b",
    "    dependsOn 'stage'",
    "    finalizedBy 'prune'",
    "\x7d"]

/-- The template of the build properties. -/
def propertiesTemplate : List String :=
  ["org.gradle.daemon=false",
    "clientName=$!\x7bclientName\x7d",
    "systemName=$!\x7bsystemName\x7d",
    "release=$!\x7brelease\x7d",
    "stagingTask=$!\x7bstagingTaskArg\x7d",
    "versionHistorySize=$\x7bversionHistorySize\x7d"]

/-- The template of the build settings. -/
def settingsTemplate : List String :=
  ["rootProject.name = '$\x7bstagingArtifactPackaging\x7d-trigger'"]

end TriggerPlan.Resources
