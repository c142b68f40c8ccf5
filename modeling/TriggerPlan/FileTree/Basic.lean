import TriggerPlan.Error
import TriggerPlan.SortedMap

/-!
# File trees

A tree of files and directories without links, as the operations of the program see it. What stands
at a place is kept under the names that lead there from the root; the root is always a directory.
The program runs in the root, so that is where relative paths start too.

An operation follows its path name by name. Each name has to be looked up in a directory, `..` leads
back up, and the root is its own parent.

Permission bits are kept but never enforced: a tree admits every operation but those that what stands
in it makes impossible, because something is missing, or because a file stands where a directory is
needed or the reverse. That a system may refuse more than that, for want of permissions or of space,
is said by `FileSystem`, which keeps trees and carries requests out as the trees say, or not at all.
-/

namespace TriggerPlan

/-- Contents of files are compared by the core library. -/
instance (priority := high) bytesDecidableEq : DecidableEq ByteArray :=
  ByteArray.instDecidableEq

/-- What stands at a place of a file tree, with its permission bits. -/
inductive FileEntry where
  | directory (mode : Nat)
  | file (mode : Nat) (content : ByteArray)
  deriving DecidableEq

/-- The permission bits of a new file. -/
def newFileMode : Nat := 0o644

/-- The permission bits of a new directory, and of a file that is marked executable. -/
def executableMode : Nat := 0o755

def FileEntry.isDirectory : FileEntry → Bool
  | directory _ => true
  | file .. => false

def FileEntry.mode : FileEntry → Nat
  | directory mode => mode
  | file mode _ => mode

/-- The same entry with other permission bits. -/
def FileEntry.withMode (mode : Nat) : FileEntry → FileEntry
  | directory _ => directory mode
  | file _ content => file mode content

/-- A tree of files and directories. -/
structure FileTree where
  entries : SortedMap (List String) FileEntry
  deriving DecidableEq

namespace FileTree

/-- The tree that has nothing but its root. -/
def empty : FileTree := ⟨.empty⟩

instance : Inhabited FileTree := ⟨empty⟩

/-! ## Places -/

/-- What stands at a place. -/
def get? (t : FileTree) (place : List String) : Option FileEntry :=
  t.entries.get? place

/-- Whether there is a directory at a place. -/
def isDirectory (t : FileTree) (place : List String) : Bool :=
  place.isEmpty || (t.get? place).any FileEntry.isDirectory

/-- Whether anything stands at a place. -/
def exists? (t : FileTree) (place : List String) : Bool :=
  place.isEmpty || (t.get? place).isSome

/-- The tree with an entry put at a place. -/
def put (t : FileTree) (place : List String) (e : FileEntry) : FileTree :=
  ⟨t.entries.insert place e⟩

@[simp] theorem get?_put (t : FileTree) (place place' : List String) (e : FileEntry) :
    (t.put place e).get? place' = if place' = place then some e else t.get? place' :=
  SortedMap.get?_insert ..

/-- Trees with the same entry at every place are equal. -/
theorem ext_get? {t u : FileTree} (h : ∀ place, t.get? place = u.get? place) : t = u := by
  obtain ⟨m⟩ := t
  obtain ⟨n⟩ := u
  exact congrArg FileTree.mk (SortedMap.ext_get? h)

/-! ## Ways -/

/-- The place that one name leads to. -/
def next (place : List String) (name : String) : List String :=
  if name = "." then place else if name = ".." then place.dropLast else place ++ [name]

/-- The place that some names lead to, one after the other. Every place on the way has to be a
directory; the last place need not exist. -/
def walk (t : FileTree) (place : List String) : List String → Except FileError (List String)
  | [] => .ok place
  | name :: names =>
    if t.isDirectory place then t.walk (next place name) names
    else if t.exists? place then .error .notADirectory
    else .error .notFound

/-! ## Directories -/

/-- Makes a directory where names lead to. -/
def makeDirectory (t : FileTree) (names : List String) : Except FileError FileTree := do
  let place ← t.walk [] names
  if t.exists? place then throw .alreadyExists
  return t.put place (.directory executableMode)

/-! ## Files -/

/-- Whether a path can lead to nothing but a directory: it ends in a slash, in `.` or in `..`. -/
def endsAtDirectory (p : Path) : Bool :=
  p.endsInSlash || p.steps.getLast?.any fun name => name = "." || name = ".."

/-- The place of the file that a path is about. The empty path leads nowhere. -/
def placeOf (t : FileTree) (p : Path) : Except FileError (List String) :=
  if p.text.isEmpty then .error .notFound else t.walk [] p.steps

/-- Writes a file. An existing file keeps its permissions. -/
def write (t : FileTree) (p : Path) (content : ByteArray) : Except FileError FileTree := do
  let place ← t.placeOf p
  if endsAtDirectory p || t.isDirectory place then throw .isADirectory
  match t.get? place with
  | some e => return t.put place (.file e.mode content)
  | none => return t.put place (.file newFileMode content)

/-- What stands where a path leads to. A path that ends in a slash has to lead to a directory. -/
def find (t : FileTree) (p : Path) : Except FileError FileEntry := do
  let place ← t.placeOf p
  match t.get? place with
  | some (.file mode content) =>
    if p.endsInSlash then throw .notADirectory
    return .file mode content
  | some e => return e
  | none => if place.isEmpty then return .directory executableMode else throw .notFound

/-- Sets the permission bits of what a path leads to. -/
def setMode (t : FileTree) (p : Path) (mode : Nat) : Except FileError FileTree := do
  let e ← t.find p
  let place ← t.placeOf p
  return if place.isEmpty then t else t.put place (e.withMode mode)

/-- Reads a file. -/
def read (t : FileTree) (p : Path) : Except FileError ByteArray := do
  match ← t.find p with
  | .file _ content => return content
  | .directory _ => throw .isADirectory

end FileTree

/-! ## Systems -/

/-- What a system can be asked to do with a tree. -/
inductive Request where
  | makeDirectory (names : List String)
  | write (target : Path) (content : ByteArray)
  | setMode (target : Path) (mode : Nat)
  deriving DecidableEq

/-- The tree after a request that it admits. -/
def FileTree.perform (t : FileTree) : Request → Except FileError FileTree
  | .makeDirectory names => t.makeDirectory names
  | .write target content => t.write target content
  | .setMode target mode => t.setMode target mode

/-- A system that keeps trees. It may refuse a request that a tree admits, for any reason; a request
that it carries out has the result that the tree gives it. -/
structure FileSystem where
  perform : FileTree → Request → Except FileError FileTree
  sound : ∀ t q u, perform t q = .ok u → t.perform q = .ok u

namespace FileSystem

/-- The system that refuses only what a tree does not admit. -/
def permissive : FileSystem :=
  ⟨FileTree.perform, fun _ _ _ h => h⟩

variable (fs : FileSystem)

/-- Makes a directory where names lead to, unless there is one. -/
def ensureDirectory (t : FileTree) (names : List String) : Except FileError FileTree :=
  match fs.perform t (.makeDirectory names), t.walk [] names with
  | .error .alreadyExists, .ok place =>
    if t.isDirectory place then .ok t else .error .alreadyExists
  | result, _ => result

/-- Makes the directory that names lead to, given in reverse, and those on the way to it. The
longest way is tried first; only if something on it does not exist, the way before its last name is
made first. What was made before a failure stays. -/
def createReversed (t : FileTree) : List String → FileTree × Except FileError Unit
  | [] => (t, .ok ())
  | name :: above =>
    let names := (name :: above).reverse
    match fs.ensureDirectory t names with
    | .ok t => (t, .ok ())
    | .error .notFound =>
      match createReversed t above with
      | (t, .ok ()) =>
        match fs.ensureDirectory t names with
        | .ok t => (t, .ok ())
        | .error e => (t, .error e)
      | failed => failed
    | .error e => (t, .error e)

/-- Makes the directory that names lead to, and those on the way to it. -/
def createDirectories (t : FileTree) (names : List String) : FileTree × Except FileError Unit :=
  fs.createReversed t names.reverse

end FileSystem

/-- Makes the directory that names lead to, and those on the way to it, where nothing but the tree
keeps it from being made. -/
def FileTree.createDirectories (t : FileTree) (names : List String) :
    FileTree × Except FileError Unit :=
  FileSystem.permissive.createDirectories t names

end TriggerPlan
