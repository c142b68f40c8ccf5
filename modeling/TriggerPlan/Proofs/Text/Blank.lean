import TriggerPlan.Text.Blank

/-!
# White space

The characters that Unicode counts as white space, one by one, and the texts that have no others.
These are the texts of which nothing is left when they are trimmed (`isBlank_eq_true_iff`).
-/

namespace TriggerPlan.Text

/-- The code points of white space. -/
def whiteSpace : List Nat :=
  [0x09, 0x0a, 0x0b, 0x0c, 0x0d, 0x20, 0x85, 0xa0, 0x1680, 0x2000, 0x2001, 0x2002, 0x2003, 0x2004,
    0x2005, 0x2006, 0x2007, 0x2008, 0x2009, 0x200a, 0x2028, 0x2029, 0x202f, 0x205f, 0x3000]

/-- There is nothing in the text but white space. -/
def IsBlank (s : String) : Prop :=
  ∀ c ∈ s.toList, c.toNat ∈ whiteSpace

/-- The ranges of blank characters have the code points of white space. -/
theorem isBlankChar_eq_true_iff {c : Char} : isBlankChar c = true ↔ c.toNat ∈ whiteSpace := by
  rw [isBlankChar, CodeRange.anyContains_iff]
  simp only [blankRanges, whiteSpace, List.mem_cons, List.not_mem_nil, or_false, exists_eq_or_imp,
    exists_eq_left]
  omega

theorem isBlank_eq_true_iff {s : String} : isBlank s = true ↔ IsBlank s := by
  rw [isBlank_iff, IsBlank]
  simp only [isBlankChar_eq_true_iff]

instance (s : String) : Decidable (IsBlank s) :=
  decidable_of_iff _ isBlank_eq_true_iff

theorem isBlank_eq_false_iff {s : String} : isBlank s = false ↔ ¬IsBlank s := by
  rw [← isBlank_eq_true_iff, Bool.not_eq_true]

end TriggerPlan.Text
