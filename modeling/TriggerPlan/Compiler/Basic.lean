import TriggerPlan.Compiler.Layout
import TriggerPlan.Compiler.TemplateContext
import TriggerPlan.Pipeline.Basic
import TriggerPlan.Resources.Source

/-!
# Compilation of triggers

A trigger is compiled into five steps: the wrapper and the templates are copied, the templates are
rendered over the wrapper, the result is packed, and the archive is published.
-/

namespace TriggerPlan

/-- What triggers are compiled with: the properties of the build and the resources that its steps
will copy. -/
structure Compiler where
  properties : ProjectProperties
  resources : ResourceSource

/-! ## The steps of a trigger -/

/-- The paths of resources that are copied into a directory. -/
def resourcePaths (directory : Path) (resources : List String) : List Path :=
  resources.map directory.child

/-- The steps of the trigger of that name. -/
def triggerSteps (name : TriggerName) (layout : Layout) (context : Context) : List Step :=
  [{ id := StepKind.materializeFixed.stepId name
     kind := .materializeFixed
     needs := []
     inputs := []
     outputs := resourcePaths layout.triggerDir wrapperResources
     action := .materialize wrapperResources layout.triggerDir executableResources },
   { id := StepKind.materializeTemplates.stepId name
     kind := .materializeTemplates
     needs := []
     inputs := []
     outputs := resourcePaths layout.templatesDir templateResources
     action := .materialize templateResources layout.templatesDir [] },
   { id := StepKind.render.stepId name
     kind := .render
     needs := [StepKind.materializeTemplates.stepId name]
     inputs := [layout.templatesDir]
     outputs := [layout.triggerDir]
     action := .render layout.templatesDir layout.triggerDir context },
   { id := StepKind.archive.stepId name
     kind := .archive
     needs := [StepKind.render.stepId name, StepKind.materializeFixed.stepId name]
     inputs := [layout.triggerDir]
     outputs := [layout.archive]
     action := .archive [layout.triggerDir] layout.archive },
   { id := StepKind.publish.stepId name
     kind := .publish
     needs := [StepKind.archive.stepId name]
     inputs := [layout.archive]
     outputs := []
     action := .publish layout.archive name.text }]

/-! ## Compilation -/

namespace Compiler

/-- The paths of a trigger. -/
def layout (c : Compiler) (v : View) : Layout :=
  .of c.properties.buildRoot v.repository.name v.trigger.hostname v.trigger.name

/-- The first resource that a trigger needs and that is not available. -/
def missingResource? (c : Compiler) : Option String :=
  (wrapperResources ++ templateResources).find? fun r => !c.resources.contains r

/-- The pipeline of a trigger. A resource that its steps would miss is reported here, before any of
them is run. -/
def compile (c : Compiler) (v : View) : Except Error Pipeline :=
  match c.missingResource? with
  | some resource => .error (.resourceMissing v.trigger.path resource)
  | none =>
    .ok {
      trigger := v.trigger.name
      repository := v.repository.name
      hostname := v.trigger.hostname
      steps := triggerSteps v.trigger.name (c.layout v) (v.context c.properties) }

end Compiler

end TriggerPlan
