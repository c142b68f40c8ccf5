import TriggerPlan.Pipeline.Basic

/-!
# Pipelines as JSON

A pipeline is written as an object. The action of a step is an object whose field `type` tells which
fields it has besides. Reading asks for each of these fields and ignores all others.
-/

namespace TriggerPlan

/-! ## Writing -/

def Json.ofPaths (ps : List Path) : Json :=
  .ofStrings (ps.map (·.text))

namespace Action

/-- The word for the action in its field `type`. -/
def typeName : Action → String
  | materialize .. => "materialize"
  | render .. => "render"
  | archive .. => "archive"
  | publish .. => "publish"

def toJson : Action → Json
  | materialize resources destination executables =>
    .object [("type", .string "materialize"), ("resources", .ofStrings resources),
      ("destination", .string destination.text), ("executables", .ofStrings executables)]
  | render templatesDir outputDir context =>
    .object [("type", .string "render"), ("templatesDir", .string templatesDir.text),
      ("outputDir", .string outputDir.text), ("context", context.toJson)]
  | archive sources target =>
    .object [("type", .string "archive"), ("sources", .ofPaths sources),
      ("archive", .string target.text)]
  | publish artifact classifier =>
    .object [("type", .string "publish"), ("artifact", .string artifact.text),
      ("classifier", .string classifier)]

end Action

def Step.toJson (s : Step) : Json :=
  .object [("id", .string s.id), ("kind", .string s.kind.name), ("needs", .ofStrings s.needs),
    ("inputs", .ofPaths s.inputs), ("outputs", .ofPaths s.outputs), ("action", s.action.toJson)]

def Pipeline.toJson (p : Pipeline) : Json :=
  .object [("trigger", .string p.trigger.text), ("repository", .string p.repository),
    ("hostname", .string p.hostname), ("steps", .array (p.steps.map Step.toJson))]

/-! ## Reading -/

namespace Json

/-- The text in a field. -/
def stringField? (j : Json) (name : String) : Option String :=
  (j.field? name).bind string?

/-- The texts in a field that holds an array. -/
def stringsField? (j : Json) (name : String) : Option (List String) :=
  (j.field? name).bind strings?

def pathField? (j : Json) (name : String) : Option Path :=
  Path.mk <$> j.stringField? name

def pathsField? (j : Json) (name : String) : Option (List Path) :=
  (·.map Path.mk) <$> j.stringsField? name

end Json

/-- Reads the action of the type that the field `type` names. -/
def Action.ofJson? (j : Json) : Option Action := do
  match ← j.stringField? "type" with
  | "materialize" =>
    return .materialize (← j.stringsField? "resources") (← j.pathField? "destination")
      (← j.stringsField? "executables")
  | "render" =>
    return .render (← j.pathField? "templatesDir") (← j.pathField? "outputDir")
      (← (j.field? "context").bind Context.ofJson?)
  | "archive" => return .archive (← j.pathsField? "sources") (← j.pathField? "archive")
  | "publish" => return .publish (← j.pathField? "artifact") (← j.stringField? "classifier")
  | _ => none

def Step.ofJson? (j : Json) : Option Step := do
  return {
    id := ← j.stringField? "id"
    kind := ← (j.stringField? "kind").bind StepKind.ofName?
    needs := ← j.stringsField? "needs"
    inputs := ← j.pathsField? "inputs"
    outputs := ← j.pathsField? "outputs"
    action := ← (j.field? "action").bind Action.ofJson? }

def Pipeline.ofJson? (j : Json) : Option Pipeline := do
  return {
    trigger := ⟨← j.stringField? "trigger"⟩
    repository := ← j.stringField? "repository"
    hostname := ← j.stringField? "hostname"
    steps := ← ((j.field? "steps").bind Json.array?).bind (·.mapM Step.ofJson?) }

end TriggerPlan
