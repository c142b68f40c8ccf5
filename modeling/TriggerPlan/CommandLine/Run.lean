import TriggerPlan.CommandLine.Arguments
import TriggerPlan.CommandLine.Report
import TriggerPlan.Declaration.Load
import TriggerPlan.Execution
import TriggerPlan.Pipeline.Json
import TriggerPlan.Pipeline.Listing

/-!
# Runs of the program

A run reads one declaration file and then works out what it will do: the changes it makes to files,
and what it prints if all of them succeed. Carrying the changes out is a separate matter.
-/

namespace TriggerPlan.CommandLine

/-! ## Outcomes -/

/-- What a run leaves besides files. -/
structure Outcome where
  exitCode : UInt32
  output : String
  errors : String
  deriving DecidableEq, Repr

namespace Outcome

def success (output : String) : Outcome :=
  ⟨0, output, ""⟩

/-- The outcome of a run that failed, given the texts of the failure and of its causes. -/
def failure (messages : List String) : Outcome :=
  ⟨1, "", failureReport messages⟩

/-- How the program is used. -/
def usageText : String :=
  "Usage: triggers [OPTIONS] <validate|plan|generate> [PATH]\n\n" ++
    "Compile trigger declarations into build pipelines\n\n" ++
    "Options:\n" ++
    "  --build-root <DIR>    Root directory of generated projects and archives\n" ++
    "  --client-name <NAME>  Client name passed to templates\n" ++
    "  --system-name <NAME>  System name passed to templates\n" ++
    "  --release <VERSION>   Release version that the triggers deploy\n" ++
    "  --json                Print the pipelines as JSON (plan only)\n" ++
    "  -h, --help            Print this text\n"

/-- The outcome of a command line that leads to no command. -/
def ofStop : Stop → Outcome
  | .help => success usageText
  | .usage e => ⟨2, "", "error: " ++ e.message ++ "\n\n" ++ usageText⟩

end Outcome

/-- The texts of the failure to load the declaration at a path, the outermost first. -/
def loadFailure (path : Path) (e : LoadError) : List String :=
  ("Failed to resolve " ++ path.text) :: e.messages

/-! ## Responses -/

/-- What a command does once it has read the declaration: changes to files, for one step after the
other, and the outcome if none of them fails. -/
structure Response where
  changes : List (String × List (Except Error FileChange))
  outcome : Outcome

namespace Response

/-- The response that only prints. -/
def print (output : String) : Response :=
  ⟨[], .success output⟩

/-- Carries the changes out on a file tree. -/
def carryOut (r : Response) (t : FileTree) : FileTree × Outcome :=
  match t.changeSteps r.changes with
  | (t, .ok ()) => (t, r.outcome)
  | (t, .error e) => (t, .failure e.messages)

end Response

/-- What a command does with a resolved declaration. -/
def Command.respond (c : Command) (compiler : Compiler) (resolution : Resolution) : Response :=
  match c with
  | .validate =>
    .print ("Configuration is valid: " ++ toString resolution.model.repositories.size ++
      " repositories, " ++ toString resolution.triggerCount ++ " triggers\n")
  | .plan false => .print (String.join (resolution.pipelines.map Pipeline.listing))
  | .plan true => .print ((Json.array (resolution.pipelines.map Pipeline.toJson)).pretty ++ "\n")
  | .generate =>
    { changes := resolution.pipelines.flatMap (·.fileChanges compiler.resources)
      outcome := .success ("Generated " ++ toString resolution.triggerCount ++
        " triggers under " ++ compiler.properties.buildRoot.text ++ "\n") }

/-- What an invocation does, from what reading the declaration file gave. -/
def Invocation.respond (i : Invocation) (resources : ResourceSource)
    (content : Except FileError ByteArray) : Response :=
  let compiler : Compiler := ⟨i.properties, resources⟩
  match compiler.resolveContent content with
  | .ok resolution => i.command.respond compiler resolution
  | .error e => ⟨[], .failure (loadFailure i.path e)⟩

/-- Runs the program on a file tree. -/
def run (resources : ResourceSource) (arguments : List String)
    (environment : String → Option String) (t : FileTree) : FileTree × Outcome :=
  match Invocation.read arguments environment with
  | .ok i => (i.respond resources (t.read i.path)).carryOut t
  | .error stop => (t, .ofStop stop)

end TriggerPlan.CommandLine
