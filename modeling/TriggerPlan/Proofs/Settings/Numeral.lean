import TriggerPlan.Proofs.Outcome
import TriggerPlan.Settings.Size

/-!
# Numerals

Which texts are sizes: the decimal numerals below `Size.bound`, that is, one or more digits after an
optional plus sign. Reading gives the number that the numeral denotes (`read_yields`).
-/

namespace TriggerPlan.Size

/-- The characters of a text after an optional plus sign. -/
def unsigned (s : String) : List Char :=
  match s.toList with
  | '+' :: cs => cs
  | cs => cs

/-- The number whose decimal digits are those of `n` followed by `cs`. -/
def decimal (n : Nat) (cs : List Char) : Nat :=
  cs.foldl (fun n c => 10 * n + (c.toNat - '0'.toNat)) n

/-- The number that a numeral denotes. -/
def value (s : String) : Nat :=
  decimal 0 (unsigned s)

/-- A numeral: one or more digits after an optional plus sign. -/
def IsNumeral (s : String) : Prop :=
  unsigned s ≠ [] ∧ ∀ c ∈ unsigned s, c.isDigit = true

instance (s : String) : Decidable (IsNumeral s) :=
  decidable_of_iff ((unsigned s).isEmpty = false ∧ (unsigned s).all Char.isDigit = true)
    (by simp [IsNumeral])

/-- More digits never give a smaller number. -/
theorem le_decimal (cs : List Char) (n : Nat) : n ≤ decimal n cs := by
  induction cs generalizing n with
  | nil => exact Nat.le_refl n
  | cons c cs ih =>
    have h : 10 * n + (c.toNat - '0'.toNat) ≤ decimal n (c :: cs) := ih _
    omega

/-- Reading the digits that follow those of `n` gives the number of all these digits. A number that
has become too large would stay so, so the reader can stop early. -/
theorem readDigits_yields (cs : List Char) {n : Nat} (hn : n < bound) :
    Yields (readDigits n cs) ((∀ c ∈ cs, c.isDigit = true) ∧ decimal n cs < bound)
      (decimal n cs) := by
  induction cs generalizing n with
  | nil =>
    exact Yields.ok n ⟨fun c hc => absurd hc List.not_mem_nil, hn⟩
  | cons c cs ih =>
    have hdec : decimal n (c :: cs) = decimal (10 * n + (c.toNat - '0'.toNat)) cs := rfl
    rw [readDigits, List.forall_mem_cons, hdec]
    by_cases hc : c.isDigit = true
    · rw [if_pos hc]
      by_cases hnext : 10 * n + (c.toNat - '0'.toNat) < bound
      · simp only [if_pos hnext, hc, true_and]
        exact ih hnext
      · have hlarge := le_decimal cs (10 * n + (c.toNat - '0'.toNat))
        simp only [if_neg hnext]
        exact Yields.error _ _ fun h => by omega
    · rw [if_neg hc]
      exact Yields.error _ _ fun h => hc h.1.1

/-- A text is read as a size if it is a numeral of a number below the bound. -/
theorem read_yields (s : String) :
    Yields (read s) (IsNumeral s ∧ value s < bound) (UInt32.ofNat (value s)) := by
  have hdigits (cs : List Char) := (readDigits_yields cs (show 0 < bound by decide)).map UInt32.ofNat
  unfold read IsNumeral value unsigned
  split
  · rename_i hs
    exact Yields.error _ _ fun h => by simp [hs] at h
  · rename_i hs
    exact Yields.error _ _ fun h => by simp [hs] at h
  · rename_i cs hne hs
    have hcs : cs ≠ [] := hne
    simp only [hs, ne_eq, hcs, not_false_eq_true, true_and]
    exact hdigits cs
  · rename_i hempty hplus hsigned
    have hcs : s.toList ≠ [] := hempty
    simp only [ne_eq, hcs, not_false_eq_true, true_and]
    exact hdigits s.toList

/-- Leading zeros and a plus sign do not change the number. -/
example : read "+007" = .ok 7 := by decide

end TriggerPlan.Size
