import TriggerPlan.Context
import TriggerPlan.Model.Name
import TriggerPlan.Path

/-!
# Pipelines

The pipeline of a trigger is the list of steps that build it. Each step names the steps it needs,
the paths it reads and writes, and the action that carries it out.
-/

namespace TriggerPlan

/-! ## Steps -/

/-- The kinds of steps. -/
inductive StepKind where
  /-- Copies the build wrapper into the directory of the trigger. -/
  | materializeFixed
  /-- Copies the templates into the directory of templates. -/
  | materializeTemplates
  | render
  | archive
  | publish
  deriving DecidableEq, Repr, Inhabited

namespace StepKind

/-- All kinds, in the order of their steps in a pipeline. -/
def all : List StepKind :=
  [.materializeFixed, .materializeTemplates, .render, .archive, .publish]

theorem mem_all (k : StepKind) : k ∈ all := by
  cases k <;> decide

def name : StepKind → String
  | materializeFixed => "materializeFixed"
  | materializeTemplates => "materializeTemplates"
  | render => "render"
  | archive => "archive"
  | publish => "publish"

/-- The kind of that name. -/
def ofName? (s : String) : Option StepKind :=
  all.find? (·.name == s)

@[simp] theorem ofName?_name (k : StepKind) : ofName? k.name = some k := by
  cases k <;> decide

/-- The identifier of a trigger's step of this kind. -/
def stepId (k : StepKind) (trigger : TriggerName) : String :=
  k.name ++ "_" ++ trigger.text

end StepKind

/-- What is done when a step is run. -/
inductive Action where
  /-- Copies resources into a directory and marks some of the copies executable. -/
  | materialize (resources : List String) (destination : Path) (executables : List String)
  /-- Renders every template of one directory into another. -/
  | render (templatesDir outputDir : Path) (context : Context)
  /-- Packs the sources into an archive. -/
  | archive (sources : List Path) (archive : Path)
  /-- Uploads an artifact under a classifier. -/
  | publish (artifact : Path) (classifier : String)
  deriving DecidableEq

/-- A step of a pipeline. -/
structure Step where
  id : String
  kind : StepKind
  /-- The identifiers of the steps that have to come before this one. -/
  needs : List String
  inputs : List Path
  outputs : List Path
  action : Action
  deriving DecidableEq

/-! ## Pipelines -/

/-- The steps that build one trigger. -/
structure Pipeline where
  trigger : TriggerName
  repository : String
  hostname : String
  steps : List Step
  deriving DecidableEq

namespace Pipeline

/-- The entity path of the trigger. -/
def path (p : Pipeline) : String :=
  rootPath ++ "/" ++ p.repository ++ "/" ++ p.hostname

/-- The path is put together anew, in the same way as that of the trigger. -/
theorem path_eq_triggerPath (p : Pipeline) : p.path = triggerPath p.repository p.hostname := rfl

/-- The first step of a kind. -/
def step? (p : Pipeline) (k : StepKind) : Option Step :=
  p.steps.find? (·.kind == k)

/-- The context of the first action that renders. -/
def context? (p : Pipeline) : Option Context :=
  p.steps.findSome? fun s =>
    match s.action with
    | .render _ _ context => some context
    | _ => none

/-- The archive of the first action that packs one. -/
def archive? (p : Pipeline) : Option Path :=
  p.steps.findSome? fun s =>
    match s.action with
    | .archive _ archive => some archive
    | _ => none

/-- The classifier of the first action that uploads. -/
def classifier? (p : Pipeline) : Option String :=
  p.steps.findSome? fun s =>
    match s.action with
    | .publish _ classifier => some classifier
    | _ => none

/-! ## Order of the steps -/

/-- Whether each step needs only steps before it, where those with identifiers in `seen` have come
before all of them. -/
def orderedAfter (seen : List String) : List Step → Bool
  | [] => true
  | s :: ss => s.needs.all seen.contains && orderedAfter (s.id :: seen) ss

/-- Whether each step needs only steps that the pipeline lists before it. -/
def isOrdered (p : Pipeline) : Bool :=
  orderedAfter [] p.steps

end Pipeline

end TriggerPlan
