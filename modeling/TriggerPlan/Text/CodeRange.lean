/-!
# Ranges of code points

A property of characters is given by a list of ranges of code points, both ends included. This
module holds the type of such ranges and the test for membership.
-/

namespace TriggerPlan

/-- The code points from `first` to `last`, both included. -/
structure CodeRange where
  first : Nat
  last : Nat
  deriving Repr, DecidableEq

namespace CodeRange

/-- Whether the code point of `c` lies in the range. -/
def contains (r : CodeRange) (c : Char) : Bool :=
  r.first ≤ c.toNat && c.toNat ≤ r.last

/-- Whether `c` lies in one of the ranges. -/
def anyContains (rs : List CodeRange) (c : Char) : Bool :=
  rs.any (·.contains c)

theorem contains_iff {r : CodeRange} {c : Char} :
    r.contains c = true ↔ r.first ≤ c.toNat ∧ c.toNat ≤ r.last := by
  simp [contains]

theorem anyContains_iff {rs : List CodeRange} {c : Char} :
    anyContains rs c = true ↔ ∃ r ∈ rs, r.first ≤ c.toNat ∧ c.toNat ≤ r.last := by
  simp [anyContains, contains_iff]

end CodeRange

end TriggerPlan
