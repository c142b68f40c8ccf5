import TriggerPlan.Checksum
import TriggerPlan.FileTree.Basic

/-!
# Listings of file trees

What stands in a tree, in the order of the paths.
-/

namespace TriggerPlan

/-- What a listing says of an entry. -/
inductive ListingItem where
  | directory
  /-- A file by its size, its checksum, and whether everybody may execute it. -/
  | file (size checksum : Nat) (isExecutable : Bool)
  deriving DecidableEq, Repr

def FileEntry.listingItem : FileEntry → ListingItem
  | directory _ => .directory
  | file mode content => .file content.size (adler32 content) (mode &&& 0o111 == 0o111)

/-- The paths of a tree with what stands there, in increasing order. -/
def FileTree.listing (t : FileTree) : List (String × ListingItem) :=
  let items := t.entries.toList.map fun e => ("/".intercalate e.1, e.2.listingItem)
  items.mergeSort fun a b => a.1 ≤ b.1

end TriggerPlan
