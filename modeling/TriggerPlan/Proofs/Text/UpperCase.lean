import TriggerPlan.Text.UpperCase

/-!
# Slashes in capitalized texts

Capitalization brings no slash into a text: no character but the slash has one in its upper-case
form.
-/

namespace TriggerPlan.Text

theorem toNat_of_ofNat_eq_slash {n : Nat} (h : Char.ofNat n = '/') : n = 0x2f := by
  by_cases hn : n.isValidChar
  · have htoNat : (Char.ofNat n).toNat = n := by
      rw [Char.ofNat, dif_pos hn]
      rfl
    rw [h] at htoNat
    exact htoNat.symm
  · rw [Char.ofNat, dif_neg hn] at h
    exact absurd h (by decide)

/-- Only a slash has a slash in its upper-case form. -/
theorem slash_not_mem_upperChar {c : Char} (hc : c ≠ '/') : '/' ∉ (upperChar c).toList := by
  have hexpansions : ∀ e ∈ caseExpansions, '/' ∉ e.2.toList := by decide +kernel
  -- the code points of a run are taken to larger ones than that of the slash
  have hruns : ∀ r ∈ caseRuns, 0x2f < (r.first : Int) + r.delta := by decide +kernel
  unfold upperChar
  split
  · rename_i s hs
    obtain ⟨before, after, heq, -⟩ := List.lookup_eq_some_iff.1 hs
    exact hexpansions (c.toNat, s) (by rw [heq]; simp)
  · split
    · rename_i r hr
      have hdelta := hruns r (List.mem_of_find?_eq_some hr)
      have hcontains := List.find?_some hr
      have hfirst : r.first ≤ c.toNat := by
        simp only [CaseRun.contains, Bool.and_eq_true, decide_eq_true_eq] at hcontains
        exact hcontains.1.1
      rw [String.toList_singleton, List.mem_singleton]
      intro heq
      have hcode := toNat_of_ofNat_eq_slash heq.symm
      omega
    · rw [String.toList_singleton, List.mem_singleton]
      exact hc.symm

/-- A capitalized text has no slash if the text has none. -/
theorem slash_not_mem_capitalize {s : String} (h : '/' ∉ s.toList) :
    '/' ∉ (capitalize s).toList := by
  unfold capitalize
  split
  · decide
  · rename_i c cs hcs
    rw [hcs, List.mem_cons, not_or] at h
    rw [String.toList_append, String.toList_ofList, List.mem_append, not_or]
    exact ⟨slash_not_mem_upperChar (Ne.symm h.1), h.2⟩

end TriggerPlan.Text
