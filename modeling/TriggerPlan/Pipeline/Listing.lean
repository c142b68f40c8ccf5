import TriggerPlan.Pipeline.Basic

/-!
# Listings of pipelines

The text that shows a pipeline to a reader: a line for the trigger, two lines for each step, and a
line for each entry of a context.
-/

namespace TriggerPlan

/-- The text with spaces added up to a width. -/
def padded (width : Nat) (s : String) : String :=
  s ++ String.ofList (List.replicate (width - s.length) ' ')

/-- The lines that show what an action does. -/
def Action.listing : Action → List String
  | materialize resources destination _ =>
    ["    " ++ toString resources.length ++ " files -> " ++ destination.text]
  | render templatesDir outputDir context =>
    ("    " ++ templatesDir.text ++ " -> " ++ outputDir.text) ::
      context.toList.map fun e => "      " ++ e.1 ++ " = " ++ e.2.getD "<none>"
  | archive _ target => ["    -> " ++ target.text]
  | publish artifact classifier => ["    " ++ artifact.text ++ " as " ++ classifier]

/-- The lines that show a step: its kind, what it needs, and what it does. -/
def Step.listing (s : Step) : List String :=
  let needs := if s.needs.isEmpty then "-" else ", ".intercalate s.needs
  ("  " ++ padded 22 s.kind.name ++ " needs " ++ needs) :: s.action.listing

/-- The text that shows a pipeline. -/
def Pipeline.listing (p : Pipeline) : String :=
  let heading := p.trigger.text ++ " (" ++ p.repository ++ "/" ++ p.hostname ++ ")"
  String.join ((heading :: p.steps.flatMap Step.listing).map (· ++ "\n"))

end TriggerPlan
