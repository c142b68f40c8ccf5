/-!
# Paths

A path is a text in which names are separated by slashes. Nothing in it is normalized: `a//b` and
`a/./b` are texts of their own, though they lead to the same place. A path that starts with a slash
is absolute.
-/

namespace TriggerPlan

/-- A path, given by its text. -/
structure Path where
  text : String
  deriving DecidableEq, Repr, Inhabited

namespace Path

instance : ToString Path := ⟨Path.text⟩

def isAbsolute (p : Path) : Bool :=
  p.text.toList.head? == some '/'

/-- Whether the text ends in a slash. -/
def endsInSlash (p : Path) : Bool :=
  p.text.toList.getLast? == some '/'

/-- The path `q` as seen from the directory `p`. An absolute `q` stands for itself; otherwise a
slash is put between the two, unless `p` is empty or has one at its end. -/
def join (p q : Path) : Path :=
  if q.isAbsolute then q
  else if p.text.isEmpty || p.endsInSlash then ⟨p.text ++ q.text⟩
  else ⟨p.text ++ "/" ++ q.text⟩

/-- The path of a name as seen from the directory `p`. -/
def child (p : Path) (name : String) : Path :=
  p.join ⟨name⟩

/-! ## Names -/

/-- Splits characters at slashes; the empty pieces between adjacent slashes are kept. -/
def splitSlashes : List Char → List (List Char)
  | [] => [[]]
  | c :: cs =>
    if c = '/' then [] :: splitSlashes cs
    else
      match splitSlashes cs with
      | [] => [[c]]
      | piece :: pieces => (c :: piece) :: pieces

/-- The names on the way that the path describes, `.` and `..` among them. Adjacent slashes separate
no name. -/
def steps (p : Path) : List String :=
  ((splitSlashes p.text.toList).filter (!·.isEmpty)).map String.ofList

/-! ## Components -/

/-- A component of a path. -/
inductive Component where
  /-- The root, at the start of an absolute path. -/
  | root
  /-- A `.` at the start of a relative path. Elsewhere a `.` is no component. -/
  | current
  | parent
  | name (s : String)
  deriving DecidableEq, Repr

/-- The component that a step after the first stands for, if any. -/
def Component.ofStep? (s : String) : Option Component :=
  if s = "." then none else if s = ".." then some .parent else some (.name s)

/-- The components of a path: two paths with the same components lead to the same place. -/
def components (p : Path) : List Component :=
  let rest := p.steps.filterMap Component.ofStep?
  if p.isAbsolute then .root :: rest
  else if p.steps.head? == some "." then .current :: rest
  else rest

end Path

end TriggerPlan
