import TriggerPlan.Path

/-!
# Errors

What can go wrong between a declaration and the files of its triggers. An error records the facts;
the wording is in `Error.message` alone.
-/

namespace TriggerPlan

/-! ## Failures of the file system -/

/-- Why the file system refused an operation. -/
inductive FileError where
  | notFound
  | alreadyExists
  | notADirectory
  | isADirectory
  | notUtf8
  /-- Any other refusal, in the words of the system. -/
  | other (text : String)
  deriving DecidableEq, Repr

/-- The text of the refusal, with the number of the system error where there is one. -/
def FileError.message : FileError → String
  | notFound => "No such file or directory (os error 2)"
  | alreadyExists => "File exists (os error 17)"
  | notADirectory => "Not a directory (os error 20)"
  | isADirectory => "Is a directory (os error 21)"
  | notUtf8 => "stream did not contain valid UTF-8"
  | other text => text

/-! ## Failures of the program -/

/-- The kinds of entities whose names have to differ among siblings. -/
inductive EntityKind where
  | repository
  | host
  deriving DecidableEq, Repr

def EntityKind.noun : EntityKind → String
  | repository => "repository"
  | host => "host"

/-- A failure, with what is needed to report it. -/
inductive Error where
  /-- The parent has an entity of that kind and name already. -/
  | duplicateEntity (parent : String) (kind : EntityKind) (name : String)
  /-- The field of the entity at `path` cannot have that value. -/
  | invalidConfiguration (path field value reason : String)
  /-- A resource that the trigger at `path` needs is not available. -/
  | resourceMissing (path resource : String)
  /-- The file system refused to write a resource of the trigger at `path`, or to mark it. -/
  | copyFailed (path resource : String) (destination : Path) (cause : FileError)
  /-- A collaborator could not carry out its step. -/
  | stepFailed (step message : String)
  deriving DecidableEq, Repr

namespace Error

/-- The class of an error, for callers that tell failures apart by it. -/
def kind : Error → String
  | duplicateEntity .. => "DuplicateEntity"
  | invalidConfiguration .. => "InvalidConfiguration"
  | resourceMissing .. => "ResourceMissing"
  | copyFailed .. => "CopyFailed"
  | stepFailed .. => "StepFailed"

/-- The text of an error. The cause of a failed copy is reported beside it, not in it. -/
def message : Error → String
  | duplicateEntity parent kind name =>
    parent ++ " already has a " ++ kind.noun ++ " named '" ++ name ++ "'"
  | invalidConfiguration path field value reason =>
    "invalid configuration at " ++ path ++ ": " ++ field ++ " = " ++ value ++ ": " ++ reason
  | resourceMissing path resource => path ++ ": no bundled resource found at " ++ resource
  | copyFailed path resource destination _ =>
    path ++ ": unable to copy " ++ resource ++ " to " ++ destination.text
  | stepFailed step message => "step " ++ step ++ " failed: " ++ message

/-- The failure of the file system that led to the error. -/
def cause? : Error → Option FileError
  | copyFailed _ _ _ cause => some cause
  | _ => none

/-- The texts of the error and of what caused it, the outermost first. -/
def messages (e : Error) : List String :=
  e.message :: (e.cause?.map FileError.message).toList

end Error

end TriggerPlan
