import TriggerPlan.CommandLine.Option
import TriggerPlan.Compiler.TemplateContext

/-!
# Command-line arguments

A command line names one command, with options before and after it, and possibly the path of a
declaration file. Of the places where an option can be given, the one after the command counts most,
then the one before it, then the environment.
-/

namespace TriggerPlan.CommandLine

/-! ## Commands -/

/-- The commands of the program. -/
inductive Command where
  /-- Checks a declaration. -/
  | validate
  /-- Shows the pipelines of a declaration, as a listing or as JSON. -/
  | plan (asJson : Bool)
  /-- Writes the files of all triggers of a declaration. -/
  | generate
  deriving DecidableEq, Repr

/-- The command of that name, before any option of its own. -/
def Command.ofName? : String → Option Command
  | "validate" => some .validate
  | "plan" => some (.plan false)
  | "generate" => some .generate
  | _ => none

/-- The path of the declaration where none is given. -/
def defaultPath : Path := ⟨"triggers.kdl"⟩

/-- What a command line asks for. -/
structure Invocation where
  command : Command
  path : Path
  properties : ProjectProperties
  deriving DecidableEq, Repr

/-! ## Reasons not to run a command -/

/-- What is wrong with a command line. -/
inductive UsageError where
  | noCommand
  | unknownCommand (name : String)
  | unexpectedArgument (argument : String)
  | missingValue (option : String)
  | unneededValue (option : String)
  | repeatedOption (option : String)
  | emptyValue (name : String)
  deriving DecidableEq, Repr

/-- Why a command line leads to no command. -/
inductive Stop where
  /-- It asks for help. -/
  | help
  | usage (error : UsageError)
  deriving DecidableEq, Repr

def UsageError.message : UsageError → String
  | noCommand => "a command is required"
  | unknownCommand name => "unrecognized command '" ++ name ++ "'"
  | unexpectedArgument argument => "unexpected argument '" ++ argument ++ "'"
  | missingValue option => "a value is required for '--" ++ option ++ "'"
  | unneededValue option => "no value is expected for '--" ++ option ++ "'"
  | repeatedOption option => "the argument '--" ++ option ++ "' cannot be used multiple times"
  | emptyValue name => "the value of '" ++ name ++ "' must not be empty"

/-! ## Reading -/

/-- What the arguments have said so far. -/
structure Reading where
  /-- The options before the command. -/
  outer : OptionValues := fun _ => none
  command? : Option Command := none
  /-- The options after the command. -/
  inner : OptionValues := fun _ => none
  path? : Option Path := none
  /-- Whether no further argument is an option. -/
  separated : Bool := false

namespace Reading

/-- Takes an option with its value, at most once in each place. -/
def giveOption (r : Reading) (o : SharedOption) (value : String) : Except Stop Reading :=
  let values := if r.command?.isSome then r.inner else r.outer
  if (values o).isSome then .error (.usage (.repeatedOption o.name))
  else if !o.accepts value then .error (.usage (.emptyValue o.name))
  else if r.command?.isSome then .ok { r with inner := r.inner.give o value }
  else .ok { r with outer := r.outer.give o value }

/-- Takes the wish for JSON, which only the command that shows pipelines has. -/
def giveJson (r : Reading) : Except Stop Reading :=
  match r.command? with
  | some (.plan false) => .ok { r with command? := some (.plan true) }
  | some (.plan true) => .error (.usage (.repeatedOption "json"))
  | _ => .error (.usage (.unexpectedArgument "--json"))

/-- Takes an argument that is no option: the command, or else the path. -/
def place (r : Reading) (argument : String) : Except Stop Reading :=
  if r.command?.isSome then
    if r.path?.isSome then .error (.usage (.unexpectedArgument argument))
    else if argument.isEmpty then .error (.usage (.emptyValue "path"))
    else .ok { r with path? := some ⟨argument⟩ }
  else if r.separated then .error (.usage (.unexpectedArgument argument))
  else if argument = "help" then .error .help
  else
    match Command.ofName? argument with
    | some command => .ok { r with command? := some command }
    | none => .error (.usage (.unknownCommand argument))

/-- Takes an option without a value of its own. -/
def giveFlag (r : Reading) (argument name : String) (value? : Option String) :
    Except Stop Reading :=
  if name = "json" ∨ name = "help" then
    if value?.isSome then .error (.usage (.unneededValue name))
    else if name = "json" then r.giveJson
    else .error .help
  else .error (.usage (.unexpectedArgument argument))

/-- Takes all arguments in order. The value of an option is the text after its equals sign, or else
the next argument, which must then be plain. -/
def read (r : Reading) : List String → Except Stop Reading
  | [] => .ok r
  | arg :: args =>
    if r.separated then r.place arg >>= (·.read args)
    else
      match Spelling.of arg with
      | .separator => read { r with separated := true } args
      | .plain => r.place arg >>= (·.read args)
      | .short letter =>
        if letter = 'h' then .error .help else .error (.usage (.unexpectedArgument arg))
      | .long name value? =>
        match SharedOption.ofName? name with
        | none => r.giveFlag arg name value? >>= (·.read args)
        | some o =>
          match value?, args with
          | some value, args => r.giveOption o value >>= (·.read args)
          | none, [] => .error (.usage (.missingValue name))
          | none, value :: args =>
            if Spelling.of value = .plain then r.giveOption o value >>= (·.read args)
            else .error (.usage (.missingValue name))

/-- The value of an option: the one after the command, or before it, or from the environment. -/
def value? (r : Reading) (environment : String → Option String) (o : SharedOption) :
    Option String :=
  r.inner o <|> r.outer o <|> environment o.variableName

/-- Whether the environment has a value that the option does not take. The environment is asked in
each place where the option is not given. -/
def refusesEnvironment (r : Reading) (environment : String → Option String) (o : SharedOption) :
    Bool :=
  ((r.inner o).isNone || (r.outer o).isNone) &&
    (environment o.variableName).any fun value => !o.accepts value

/-- What all arguments together ask for. -/
def finish (r : Reading) (environment : String → Option String) : Except Stop Invocation := do
  let some command := r.command? | throw (.usage .noCommand)
  if let some o := SharedOption.all.find? (r.refusesEnvironment environment) then
    throw (.usage (.emptyValue o.variableName))
  let value? := r.value? environment
  let standard : ProjectProperties := {}
  return {
    command := command
    path := r.path?.getD defaultPath
    properties :=
      { standard with
        buildRoot := ((value? .buildRoot).map Path.mk).getD standard.buildRoot
        clientName := value? .clientName
        release := value? .release
        systemName := value? .systemName } }

end Reading

/-- Reads a command line, with the variables of its environment. -/
def Invocation.read (arguments : List String) (environment : String → Option String) :
    Except Stop Invocation := do
  let r ← Reading.read {} arguments
  r.finish environment

end TriggerPlan.CommandLine
