import TriggerPlan.CommandLine.Run
import TriggerPlan.Resources.Bundled

/-!
# The program

Runs the command line on the files of the system: reads the declaration, carries the changes of the
response out, and prints its outcome.
-/

namespace TriggerPlan.CommandLine

/-! ## Files of the system -/

/-- The number of the error that a directory stands where a file is needed. -/
def directoryErrorCode : UInt32 := 21

/-- The refusal that an error of the system stands for. Its number may come with a minus sign. -/
def fileErrorOf (e : IO.Error) : FileError :=
  match e with
  | .noFileOrDirectory .. => .notFound
  | .alreadyExists .. => .alreadyExists
  | .inappropriateType _ code _ =>
    if code = directoryErrorCode || code = -directoryErrorCode then .isADirectory
    else .notADirectory
  | e => .other (toString e)

/-- The result of an action on files, or the reason why the system refused it. -/
def attempting {α : Type} (action : IO α) : IO (Except FileError α) := do
  match ← action.toBaseIO with
  | .ok a => return .ok a
  | .error e => return .error (fileErrorOf e)

/-- Whether a path leads to a directory. -/
def isDirectory (path : String) : IO Bool := do
  try
    return ← (← IO.FS.realPath path).isDir
  catch _ => return false

/-- Makes a directory, unless there is one. -/
def ensureDirectory (directory : String) : IO Unit := do
  try IO.FS.createDir directory
  catch e => unless ← isDirectory directory do throw e

/-- Makes the directory that names lead to, given in reverse, and those on the way to it. The
longest way is tried first, as on a file tree. -/
def createDirectories (root : String) : List String → IO Unit
  | [] => return
  | name :: above => do
    let directory := root ++ "/".intercalate (name :: above).reverse
    try ensureDirectory directory
    catch
      | .noFileOrDirectory .. =>
        createDirectories root above
        ensureDirectory directory
      | e => throw e

/-- The permissions of a file that everybody may read and execute and only its owner may write. -/
def executableRights : IO.FileRight :=
  let others : IO.AccessRight := { read := true, execution := true }
  { user := { read := true, write := true, execution := true }, group := others, other := others }

/-- Carries one change out. -/
def performChange : FileChange → IO Unit
  | .copy _ _ target content => do
    createDirectories (if target.isAbsolute then "/" else "") (FileTree.parentSteps target).reverse
    IO.FS.writeBinFile target.text content
  | .markExecutable _ _ target => IO.setAccessRights target.text executableRights

/-- Carries the changes of one step out, until one of them fails. -/
def performChanges : List (Except Error FileChange) → IO (Except Error Unit)
  | [] => return .ok ()
  | .error e :: _ => return .error e
  | .ok c :: cs => do
    match ← attempting (performChange c) with
    | .ok () => performChanges cs
    | .error cause => return .error (c.failure cause)

/-- Carries the changes of steps out, until one of them fails. -/
def performSteps : List (String × List (Except Error FileChange)) → IO (Except StepFailure Unit)
  | [] => return .ok ()
  | (id, changes) :: steps => do
    match ← performChanges changes with
    | .ok () => performSteps steps
    | .error e => return .error ⟨id, e⟩

/-! ## The run -/

/-- Runs the command line and gives its outcome. -/
def perform (arguments : List String) : IO Outcome := do
  let environment ← SharedOption.all.mapM fun o =>
    return (o.variableName, ← IO.getEnv o.variableName)
  match Invocation.read arguments fun name => (environment.lookup name).join with
  | .error stop => return .ofStop stop
  | .ok i =>
    let content ← attempting (IO.FS.readBinFile i.path.text)
    let response := i.respond Resources.bundled content
    match ← performSteps response.changes with
    | .ok () => return response.outcome
    | .error e => return .failure e.messages

end TriggerPlan.CommandLine

/-- Runs the program and prints what it has to say. -/
def main (arguments : List String) : IO UInt32 := do
  let outcome ← TriggerPlan.CommandLine.perform arguments
  IO.print outcome.output
  IO.eprint outcome.errors
  return outcome.exitCode
