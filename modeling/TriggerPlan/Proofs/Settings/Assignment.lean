import Mathlib.Data.List.Induction
import TriggerPlan.Proofs.Declaration.Language
import TriggerPlan.Settings.Layer

/-!
# Assignment

When a value can be assigned to an attribute, and the layer that results: `Layer.put` takes the
value at its word, and an assignment is `Layer.put` for the values that the attribute accepts
(`Layer.assign_yields`). Conversely every attribute of a layer is given by some value
(`Layer.value`), so that assignments make any layer out of any other (`Layer.foldl_put_value`).
-/

namespace TriggerPlan

/-- The number that a value gives as a size: that of an integer or of a numeral. -/
def Value.size? : Value → Option Nat
  | .integer i => some i.toNat
  | .string s => some (Size.value s)
  | _ => none

/-- A value that is a size gives a number in range. -/
theorem Value.IsSize.lt_bound {v : Value} (h : v.IsSize) {n : Nat} (hn : v.size? = some n) :
    n < Size.bound := by
  cases v with
  | string s =>
    obtain rfl := Option.some.inj hn
    exact h.2
  | integer i =>
    obtain rfl := Option.some.inj hn
    have hi : 0 ≤ i ∧ i < Size.bound := h
    omega
  | null => exact nomatch hn
  | float x => exact h.elim
  | boolean b => exact h.elim

namespace Layer

/-- The layer with an attribute set to a value, or unset if the value is neither text nor size. -/
def put (l : Layer) (key : SettingKey) (v : Value) : Layer :=
  match key with
  | .text k => l.setText k v.text?
  | .versionHistorySize => l.setSize (v.size?.map UInt32.ofNat)

theorem text_put (l : Layer) (key : SettingKey) (v : Value) (k : TextKey) :
    (l.put key v).text k = if key = .text k then v.text? else l.text k := by
  cases key with
  | text k' => simp [put, eq_comm]
  | versionHistorySize => simp [put]

theorem versionHistorySize_put (l : Layer) (key : SettingKey) (v : Value) :
    (l.put key v).versionHistorySize =
      if key = .versionHistorySize then v.size?.map UInt32.ofNat else l.versionHistorySize := by
  cases key with
  | text k' => simp [put]
  | versionHistorySize => simp [put]

/-- A value gives a text if it is a string or `null`. -/
theorem textOfValue_yields (path field : String) (v : Value) :
    Yields (textOfValue path field v) v.IsText v.text? := by
  cases v with
  | string s => exact Yields.ok _ trivial
  | null => exact Yields.ok _ trivial
  | integer i => exact Yields.error _ _ id
  | float x => exact Yields.error _ _ id
  | boolean b => exact Yields.error _ _ id

/-- A text gives a size if it is a numeral in range. -/
theorem ofText_yields (path s : String) :
    Yields (Size.ofText path s) (Size.IsNumeral s ∧ Size.value s < Size.bound)
      (UInt32.ofNat (Size.value s)) := by
  intro n
  rw [← Size.read_yields s n, Size.ofText]
  cases Size.read s <;> simp

/-- A value gives a size if it is an integer or a numeral in range, or `null`. -/
theorem sizeOfValue_yields (path : String) (v : Value) :
    Yields (sizeOfValue path v) v.IsSize (v.size?.map UInt32.ofNat) := by
  cases v with
  | string s => exact (ofText_yields path s).map some
  | null => exact Yields.ok _ trivial
  | float x => exact Yields.error _ _ id
  | boolean b => exact Yields.error _ _ id
  | integer i =>
    rw [sizeOfValue]
    by_cases hi : 0 ≤ i ∧ i < Size.bound
    · rw [if_pos hi]
      exact Yields.ok _ hi
    · rw [if_neg hi]
      exact Yields.error _ _ hi

/-- A value is assigned if the attribute accepts it. -/
theorem assign_yields (l : Layer) (path : String) (key : SettingKey) (v : Value) :
    Yields (l.assign path key v) (key.Accepts v) (l.put key v) := by
  cases key with
  | text k => exact (textOfValue_yields path k.name v).map (l.setText k)
  | versionHistorySize => exact (sizeOfValue_yields path v).map l.setSize

end Layer

/-! ## Values for attributes -/

/-- The value that gives a text, or unsets it. -/
def Value.ofText : Option String → Value
  | some s => .string s
  | none => .null

/-- The value that gives a size, or unsets it. -/
def Value.ofSize : Option UInt32 → Value
  | some n => .integer n.toNat
  | none => .null

@[simp] theorem Value.text?_ofText (t : Option String) : (ofText t).text? = t := by
  cases t <;> rfl

theorem Value.isText_ofText (t : Option String) : (ofText t).IsText := by
  cases t <;> exact trivial

@[simp] theorem Value.size?_ofSize (n : Option UInt32) :
    (ofSize n).size?.map UInt32.ofNat = n := by
  cases n with
  | none => rfl
  | some n =>
    show some (UInt32.ofNat n.toNat) = some n
    rw [UInt32.ofNat_toNat]

theorem Value.isSize_ofSize (n : Option UInt32) : (ofSize n).IsSize := by
  cases n with
  | none => exact trivial
  | some n =>
    have hn : n.toNat < Size.bound := n.toNat_lt
    show (0 : Int) ≤ n.toNat ∧ (n.toNat : Int) < Size.bound
    omega

namespace Layer

/-- The value that gives an attribute what the layer has. -/
def value (l : Layer) : SettingKey → Value
  | .text k => .ofText (l.text k)
  | .versionHistorySize => .ofSize l.versionHistorySize

theorem accepts_value (l : Layer) (key : SettingKey) : key.Accepts (l.value key) := by
  cases key with
  | text k => exact Value.isText_ofText _
  | versionHistorySize => exact Value.isSize_ofSize _

/-- What an assignment sets for one key only has the value of this key, once the key has had its
turn. -/
theorem get_foldl_put {τ : Type} (get : Layer → τ) (key : SettingKey) {ofValue : Value → τ}
    (hput : ∀ l k v, get (put l k v) = if k = key then ofValue v else get l)
    (value : SettingKey → Value) (l : Layer) (keys : List SettingKey) :
    get (keys.foldl (fun done k => done.put k (value k)) l) =
      if key ∈ keys then ofValue (value key) else get l := by
  induction keys using List.reverseRecOn with
  | nil => rfl
  | append_singleton keys k ih =>
    rw [List.foldl_concat, hput, ih]
    by_cases hk : k = key
    · have hmem : key ∈ keys ++ [k] := List.mem_append_right keys (List.mem_singleton.2 hk.symm)
      rw [if_pos hk, if_pos hmem, hk]
    · simp [hk, Ne.symm hk]

/-- The values of a layer make it out of any other one. -/
theorem foldl_put_value (l l' : Layer) :
    SettingKey.all.foldl (fun done key => done.put key (l.value key)) l' = l := by
  refine ext_text (fun k => ?_) ?_
  · rw [get_foldl_put (fun l => l.text k) (.text k) fun l key v => text_put l key v k,
      if_pos (SettingKey.mem_all _), value, Value.text?_ofText]
  · rw [get_foldl_put versionHistorySize .versionHistorySize versionHistorySize_put,
      if_pos (SettingKey.mem_all _), value, Value.size?_ofSize]

end Layer

end TriggerPlan
