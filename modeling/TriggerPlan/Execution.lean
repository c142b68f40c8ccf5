import TriggerPlan.Materialize
import TriggerPlan.Pipeline.Basic

/-!
# Execution of steps

A step that materializes resources is carried out on the file tree. Every other step is handed to
the collaborator that its action is for, in one call that carries what the action holds. The order
of the steps is up to the caller.
-/

namespace TriggerPlan

/-! ## Running one step -/

/-- A call to a collaborator. -/
inductive Call where
  | render (templatesDir outputDir : Path) (context : Context)
  | archive (sources : List Path) (archive : Path)
  | publish (artifact : Path) (classifier : String)
  deriving DecidableEq

/-- What a step may need to run: the resources, and the answers of the collaborators. -/
structure Collaborators where
  resources : ResourceSource
  answer : Call → Except Error Unit

/-- What running a step leaves behind: the tree, the calls that were made, and the result. -/
structure StepRun where
  tree : FileTree
  calls : List Call
  result : Except Error Unit

/-- The run of a step that is handed to a collaborator. -/
def Collaborators.handOver (c : Collaborators) (t : FileTree) (call : Call) : StepRun :=
  ⟨t, [call], c.answer call⟩

/-- Runs a step of a pipeline. -/
def Pipeline.runStep (p : Pipeline) (s : Step) (c : Collaborators) (t : FileTree) : StepRun :=
  match s.action with
  | .materialize resources destination executables =>
    let (t, result) := t.materialize c.resources p.path resources destination executables
    ⟨t, [], result⟩
  | .render templatesDir outputDir context => c.handOver t (.render templatesDir outputDir context)
  | .archive sources archive => c.handOver t (.archive sources archive)
  | .publish artifact classifier => c.handOver t (.publish artifact classifier)

/-! ## Generating the files of a pipeline -/

/-- The failure of a step of a pipeline. -/
structure StepFailure where
  step : String
  error : Error
  deriving DecidableEq, Repr

/-- The texts of the failure and of what caused it, the outermost first. -/
def StepFailure.messages (f : StepFailure) : List String :=
  ("Step " ++ f.step ++ " failed") :: f.error.messages

/-- The changes that the steps of a pipeline make to files, with the identifier of their step. Only
materializing actions make any. -/
def Pipeline.fileChanges (p : Pipeline) (source : ResourceSource) :
    List (String × List (Except Error FileChange)) :=
  p.steps.filterMap fun s =>
    match s.action with
    | .materialize resources destination executables =>
      some (s.id, materializeChanges source p.path resources destination executables)
    | _ => none

namespace FileTree

/-- Carries out the changes of steps, until one of them fails. -/
def changeSteps (t : FileTree) :
    List (String × List (Except Error FileChange)) → FileTree × Except StepFailure Unit
  | [] => (t, .ok ())
  | (id, changes) :: steps =>
    match FileSystem.permissive.changeAll t changes with
    | (t, .ok ()) => t.changeSteps steps
    | (t, .error e) => (t, .error ⟨id, e⟩)

/-- Writes the files of a pipeline: runs its materializing actions in order. -/
def generate (t : FileTree) (source : ResourceSource) (p : Pipeline) :
    FileTree × Except StepFailure Unit :=
  t.changeSteps (p.fileChanges source)

end FileTree

end TriggerPlan
