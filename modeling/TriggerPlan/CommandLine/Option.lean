import TriggerPlan.Path

/-!
# Options

The options that every command takes. Each of them has a value, may be given before the command and
again after it, and is stood in for by a variable of the environment.
-/

namespace TriggerPlan.CommandLine

/-- An option that every command takes. -/
inductive SharedOption where
  | buildRoot
  | clientName
  | systemName
  | release
  deriving DecidableEq, Repr

namespace SharedOption

def all : List SharedOption :=
  [.buildRoot, .clientName, .systemName, .release]

/-- The name of the option, which two dashes precede on the command line. -/
def name : SharedOption → String
  | buildRoot => "build-root"
  | clientName => "client-name"
  | systemName => "system-name"
  | release => "release"

/-- The option of that name. -/
def ofName? (s : String) : Option SharedOption :=
  all.find? (·.name == s)

@[simp] theorem ofName?_name (o : SharedOption) : ofName? o.name = some o := by
  cases o <;> decide

/-- The variable of the environment that stands in for the option. -/
def variableName : SharedOption → String
  | buildRoot => "TRIGGERS_BUILD_ROOT"
  | clientName => "TRIGGERS_CLIENT_NAME"
  | systemName => "TRIGGERS_SYSTEM_NAME"
  | release => "TRIGGERS_RELEASE"

/-- Whether the option takes a value. Only a path must not be empty. -/
def accepts (o : SharedOption) (value : String) : Bool :=
  o != .buildRoot || !value.isEmpty

end SharedOption

/-- The values that options have been given in one place. -/
abbrev OptionValues := SharedOption → Option String

/-- The values with one more option given. -/
def OptionValues.give (values : OptionValues) (o : SharedOption) (value : String) : OptionValues :=
  fun o' => if o' = o then some value else values o'

/-! ## Spelling -/

/-- What an argument looks like. -/
inductive Spelling where
  /-- The two dashes after which no argument is an option. -/
  | separator
  /-- Two dashes and a name, possibly with a value after an equals sign. -/
  | long (name : String) (value? : Option String)
  /-- One dash and a letter. -/
  | short (letter : Char)
  | plain
  deriving DecidableEq, Repr

/-- How an argument is spelled. A single dash is plain. -/
def Spelling.of (argument : String) : Spelling :=
  match argument.toList with
  | ['-', '-'] => .separator
  | '-' :: '-' :: cs =>
    let value? :=
      match cs.dropWhile (· != '=') with
      | [] => none
      | _ :: value => some (String.ofList value)
    .long (String.ofList (cs.takeWhile (· != '='))) value?
  | '-' :: c :: _ => .short c
  | _ => .plain

end TriggerPlan.CommandLine
