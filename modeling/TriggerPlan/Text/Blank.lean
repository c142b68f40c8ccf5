import TriggerPlan.Text.CodeRange

/-!
# Blank text

A character is blank if it has the Unicode property White_Space; a text is blank if all of its
characters are. The empty text is blank.
-/

namespace TriggerPlan.Text

/-! ## Blank characters -/

/-- The code points with the property White_Space. -/
def blankRanges : List CodeRange :=
  [⟨0x09, 0x0d⟩, ⟨0x20, 0x20⟩, ⟨0x85, 0x85⟩, ⟨0xa0, 0xa0⟩, ⟨0x1680, 0x1680⟩, ⟨0x2000, 0x200a⟩,
    ⟨0x2028, 0x2029⟩, ⟨0x202f, 0x202f⟩, ⟨0x205f, 0x205f⟩, ⟨0x3000, 0x3000⟩]

/-- Whether a character has the property White_Space. -/
def isBlankChar (c : Char) : Bool :=
  CodeRange.anyContains blankRanges c

/-- Every ASCII white space character is blank. -/
theorem isBlankChar_of_isWhitespace {c : Char} (h : c.isWhitespace = true) :
    isBlankChar c = true := by
  simp only [Char.isWhitespace, Bool.or_eq_true, decide_eq_true_eq] at h
  rcases h with ((rfl | rfl) | rfl) | rfl <;> decide

/-! ## Blank texts -/

/-- Whether nothing is left of a text once blank characters are trimmed from both ends. -/
def isBlank (s : String) : Bool :=
  s.toList.all isBlankChar

theorem isBlank_iff {s : String} : isBlank s = true ↔ ∀ c ∈ s.toList, isBlankChar c = true := by
  simp [isBlank]

end TriggerPlan.Text
