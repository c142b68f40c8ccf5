import TriggerPlan.FileTree.Basic
import TriggerPlan.Resources.Source

/-!
# Materialization of resources

Resources are copied into a directory under their own relative paths, and then some of the copies
are marked executable. What has to be done is a list of changes to files, worked out beforehand;
they are carried out in order by a file system, and the first failure ends the work.
-/

namespace TriggerPlan

/-! ## Changes to files -/

/-- A change to a file, made for the trigger at `owner`. -/
inductive FileChange where
  /-- Writes the bytes of a resource, after making the directory of the target. -/
  | copy (owner resource : String) (target : Path) (content : ByteArray)
  /-- Marks the copy of a resource executable. -/
  | markExecutable (owner resource : String) (target : Path)
  deriving DecidableEq

/-- The error that reports why a change failed. -/
def FileChange.failure (c : FileChange) (cause : FileError) : Error :=
  match c with
  | copy owner resource target _ => .copyFailed owner resource target cause
  | markExecutable owner resource target => .copyFailed owner resource target cause

/-- The changes that materialize resources for the trigger at `owner`. In place of the change for a
resource that the source does not have stands the error that reports it. -/
def materializeChanges (source : ResourceSource) (owner : String) (resources : List String)
    (destination : Path) (executables : List String) : List (Except Error FileChange) :=
  (resources.map fun r =>
    match source.load r with
    | some content => .ok (.copy owner r (destination.child r) content)
    | none => .error (.resourceMissing owner r)) ++
  executables.map fun r => .ok (.markExecutable owner r (destination.child r))

/-! ## Carrying changes out -/

/-- The names that lead to the directory of a path's target. -/
def FileTree.parentSteps (p : Path) : List String :=
  (p.steps.filter (· != ".")).dropLast

namespace FileSystem

variable (fs : FileSystem)

/-- Carries out one change. Directories that were made before a failure stay. -/
def change (t : FileTree) (c : FileChange) : FileTree × Except FileError Unit :=
  match c with
  | .copy _ _ target content =>
    match fs.createDirectories t (FileTree.parentSteps target) with
    | (t, .ok ()) =>
      match fs.perform t (.write target content) with
      | .ok t => (t, .ok ())
      | .error e => (t, .error e)
    | failed => failed
  | .markExecutable _ _ target =>
    match fs.perform t (.setMode target executableMode) with
    | .ok t => (t, .ok ())
    | .error e => (t, .error e)

/-- Carries changes out until one of them fails. -/
def changeAll (t : FileTree) : List (Except Error FileChange) → FileTree × Except Error Unit
  | [] => (t, .ok ())
  | .error e :: _ => (t, .error e)
  | .ok c :: cs =>
    match fs.change t c with
    | (t, .ok ()) => changeAll t cs
    | (t, .error cause) => (t, .error (c.failure cause))

/-- Copies resources under a directory, for the trigger at `owner`, and marks some of the copies
executable. -/
def materialize (t : FileTree) (source : ResourceSource) (owner : String)
    (resources : List String) (destination : Path) (executables : List String) :
    FileTree × Except Error Unit :=
  fs.changeAll t (materializeChanges source owner resources destination executables)

end FileSystem

/-- Copies resources under a directory and marks some of the copies executable, where nothing but
the tree keeps it from being done. -/
def FileTree.materialize (t : FileTree) (source : ResourceSource) (owner : String)
    (resources : List String) (destination : Path) (executables : List String) :
    FileTree × Except Error Unit :=
  FileSystem.permissive.materialize t source owner resources destination executables

end TriggerPlan
