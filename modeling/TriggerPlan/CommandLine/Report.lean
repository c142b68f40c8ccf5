/-!
# Reports of failures

A failure is reported with all its causes, the outermost first. A single cause stands alone; two and
more are numbered. The lines of a cause are aligned under its first one.
-/

namespace TriggerPlan.CommandLine

def spaces (n : Nat) : String :=
  String.ofList (List.replicate n ' ')

/-- The text with `margin` spaces before every line but the first. -/
def hanging (margin : Nat) (s : String) : String :=
  String.join (s.toList.map fun c => if c = '\n' then "\n" ++ spaces margin else String.singleton c)

/-- A cause that stands alone. -/
def loneCause (s : String) : String :=
  "\n" ++ spaces 4 ++ hanging 4 s

/-- A cause with its number, which ends in the fifth column. -/
def numberedCause (s : String) (n : Nat) : String :=
  let number := toString n
  "\n" ++ spaces (5 - number.length) ++ number ++ ": " ++ hanging 7 s

/-- The causes of a failure. -/
def causesText : List String → String
  | [] => ""
  | [cause] => "\n\nCaused by:" ++ loneCause cause
  | causes => "\n\nCaused by:" ++ String.join (causes.zipIdx.map fun c => numberedCause c.1 c.2)

/-- The report of a failure, given the texts of the failure and of its causes. -/
def failureReport : List String → String
  | [] => ""
  | failure :: causes => "Error: " ++ failure ++ causesText causes ++ "\n"

end TriggerPlan.CommandLine
