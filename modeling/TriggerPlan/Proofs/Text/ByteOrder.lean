import Mathlib.Tactic.SplitIfs
import TriggerPlan.SortedMap

/-!
# The order of texts

Texts are compared character by character. This is also the order of their bytes in UTF-8: the larger
of two characters has the larger encoding, whatever follows (`utf8_lt_utf8_iff`).
-/

namespace TriggerPlan.Text

/-- The bytes of a text in UTF-8. -/
def utf8 (s : String) : List UInt8 :=
  s.toUTF8.data.toList

/-- The bytes of a text are those of its characters, one after the other. -/
theorem utf8_eq_flatMap (s : String) : utf8 s = s.toList.flatMap String.utf8EncodeChar := by
  have hbytes : (String.ofList s.toList).toUTF8.data.toList =
      s.toList.flatMap String.utf8EncodeChar := by
    rw [String.toUTF8_eq_toByteArray]
    exact List.toList_data_toByteArray
  rw [String.ofList_toList] at hbytes
  exact hbytes

/-! ## Characters -/

/-- Lists of bytes are compared by their first bytes, as long as these are in range. -/
theorem ofNat_cons_lt_iff {a b : Nat} (ha : a < 256) (hb : b < 256) {xs ys : List UInt8} :
    UInt8.ofNat a :: xs < UInt8.ofNat b :: ys ↔ a < b ∨ a = b ∧ xs < ys := by
  have hlt : UInt8.ofNat a < UInt8.ofNat b ↔ a < b := UInt8.ofNat_lt_iff_lt ha hb
  have heq : UInt8.ofNat a = UInt8.ofNat b ↔ a = b := by
    rw [← UInt8.toNat_inj, UInt8.toNat_ofNat', UInt8.toNat_ofNat', Nat.mod_eq_of_lt ha,
      Nat.mod_eq_of_lt hb]
  rw [List.cons_lt_cons_iff, hlt, heq]

/-- The larger of two characters has the larger encoding, whatever follows. -/
theorem utf8EncodeChar_append_lt {c d : Char} (h : c < d) (xs ys : List UInt8) :
    String.utf8EncodeChar c ++ xs < String.utf8EncodeChar d ++ ys := by
  have hcd : c.val.toNat < d.val.toNat := UInt32.lt_iff_toNat_lt.1 (Char.lt_def.1 h)
  have hd : d.val.toNat < 0x110000 := by
    rcases d.valid with hd | hd <;> omega
  generalize hm : c.val.toNat = m at hcd
  generalize hn : d.val.toNat = n at hcd hd
  -- the bytes hold the digits of the code points to the base 64
  have hdigits (k : Nat) (hk : k < 0x110000) :
      k / 4096 = k / 64 / 64 ∧ k / 262144 % 8 = k / 64 / 64 / 64 := by
    rw [Nat.div_div_eq_div_mul, Nat.div_div_eq_div_mul]
    omega
  obtain ⟨hm2, hm3⟩ := hdigits m (Nat.lt_trans hcd hd)
  obtain ⟨hn2, hn3⟩ := hdigits n hd
  have hle : m / 64 ≤ n / 64 := Nat.div_le_div_right (Nat.le_of_lt hcd)
  have hle' : m / 64 / 64 ≤ n / 64 / 64 := Nat.div_le_div_right hle
  simp only [String.utf8EncodeChar, hm, hn, hm2, hm3, hn2, hn3]
  -- a longer encoding has a larger first byte, and in encodings of one length the first digit that
  -- differs decides
  split_ifs <;> simp (disch := omega) only [List.cons_append, List.nil_append, ofNat_cons_lt_iff] <;>
    omega

/-! ## Texts -/

theorem flatMap_utf8EncodeChar_lt {xs ys : List Char} (h : xs < ys) :
    xs.flatMap String.utf8EncodeChar < ys.flatMap String.utf8EncodeChar := by
  induction xs generalizing ys with
  | nil =>
    cases ys with
    | nil => exact absurd h (List.lt_irrefl [])
    | cons y ys =>
      have hy : String.utf8EncodeChar y ≠ [] := by
        rw [← List.length_pos_iff, String.length_utf8EncodeChar]
        exact y.utf8Size_pos
      obtain ⟨b, bs, hbs⟩ := List.exists_cons_of_ne_nil hy
      rw [List.flatMap_cons, hbs]
      exact List.nil_lt_cons _ _
  | cons x xs ih =>
    cases ys with
    | nil => exact absurd h (List.not_lt_nil _)
    | cons y ys =>
      rw [List.flatMap_cons, List.flatMap_cons]
      rcases List.cons_lt_cons_iff.1 h with hxy | ⟨rfl, hrest⟩
      · exact utf8EncodeChar_append_lt hxy _ _
      · exact List.append_left_lt (ih hrest)

/-- Texts are in the order of their bytes. -/
theorem utf8_lt_utf8_iff {s t : String} : utf8 s < utf8 t ↔ s < t := by
  have hmono {s t : String} (h : s < t) : utf8 s < utf8 t := by
    rw [utf8_eq_flatMap, utf8_eq_flatMap]
    exact flatMap_utf8EncodeChar_lt h
  constructor
  · intro h
    by_cases hst : s < t
    · exact hst
    by_cases hts : t < s
    · exact absurd (hmono hts) (List.lt_asymm h)
    · obtain rfl : s = t := Std.Trichotomous.trichotomous s t hst hts
      exact absurd h (List.lt_irrefl _)
  · exact hmono

end TriggerPlan.Text
