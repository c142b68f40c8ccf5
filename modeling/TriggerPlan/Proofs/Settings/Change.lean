import TriggerPlan.Model.Operation
import TriggerPlan.Proofs.Settings.Assignment
import TriggerPlan.Proofs.Settings.Failure

/-!
# Changes of layers

What a change of a layer asks for and gives: only an assignment or a size given as text can fail, and
`Layer.changed` is the layer that results otherwise (`Layer.change_yields`). For each attribute a
change either leaves a value or does not touch it (`text_changed`, `versionHistorySize_changed`).
-/

namespace TriggerPlan

/-! ## Success and failure -/

namespace LayerChange

/-- The change can be made to a layer: a value that is assigned has the type of its attribute, and a
text that is given for the size is a numeral in range. -/
def IsAcceptable : LayerChange → Prop
  | assign key value => key.Accepts value
  | setSizeText text => Size.IsNumeral text ∧ Size.value text < Size.bound
  | clear _ => True
  | reset _ => True
  | setSize _ => True

/-- The attribute that a value is given for. -/
def key? : LayerChange → Option SettingKey
  | assign key _ => some key
  | clear key => some key
  | reset _ => none
  | setSize _ => some .versionHistorySize
  | setSizeText _ => some .versionHistorySize

end LayerChange

namespace Layer

/-- The layer after a change that can be made. -/
def changed (l : Layer) : LayerChange → Layer
  | .assign key value => l.put key value
  | .clear key => l.clear key
  | .reset toGlobalDefaults => if toGlobalDefaults then globalDefaults else empty
  | .setSize size => l.setSize size
  | .setSizeText text => l.setSize (some (UInt32.ofNat (Size.value text)))

/-- A change is made if it can be made. -/
theorem change_yields (l : Layer) (path : String) (change : LayerChange) :
    Yields (l.change path change) change.IsAcceptable (l.changed change) := by
  cases change with
  | assign key value => exact l.assign_yields path key value
  | setSizeText text => exact (ofText_yields path text).map fun n => l.setSize (some n)
  | clear key => exact Yields.ok _ trivial
  | reset toGlobalDefaults => exact Yields.ok _ trivial
  | setSize size => exact Yields.ok _ trivial

/-- A change that fails is reported under the name of its attribute. -/
theorem change_reports (l : Layer) (path : String) (change : LayerChange) :
    Reports (l.change path change) fun e =>
      ∃ key, change.key? = some key ∧ e.IsAbout path key.name := by
  cases change with
  | assign key value => exact (l.assign_reports path key value).mono fun e he => ⟨key, rfl, he⟩
  | setSizeText text =>
    exact ((Size.ofText_reports path text).map _).mono fun e he => ⟨.versionHistorySize, rfl, he⟩
  | clear key => exact Reports.ok _
  | reset toGlobalDefaults => exact Reports.ok _
  | setSize size => exact Reports.ok _

end Layer

/-! ## Attributes -/

namespace LayerChange

/-- What a change leaves for a text attribute, if it touches the attribute. -/
def text? (k : TextKey) : LayerChange → Option (Option String)
  | assign key value => if key = .text k then some value.text? else none
  | clear key => if key = .text k then some none else none
  | reset toGlobalDefaults =>
    some (if toGlobalDefaults ∧ k = .stagingArtifactType then some "zip" else none)
  | setSize _ => none
  | setSizeText _ => none

/-- What a change leaves for the size of the version history, if it touches the size. -/
def size? : LayerChange → Option (Option Nat)
  | assign key value => if key = .versionHistorySize then some value.size? else none
  | clear key => if key = .versionHistorySize then some none else none
  | reset toGlobalDefaults => some (if toGlobalDefaults then some 2 else none)
  | setSize size => some (size.map UInt32.toNat)
  | setSizeText text => some (some (Size.value text))

end LayerChange

namespace Layer

theorem text_clear (l : Layer) (key : SettingKey) (k : TextKey) :
    (l.clear key).text k = if key = .text k then none else l.text k := by
  cases key with
  | text k' => simp [clear, eq_comm]
  | versionHistorySize => simp [clear]

theorem versionHistorySize_clear (l : Layer) (key : SettingKey) :
    (l.clear key).versionHistorySize =
      if key = .versionHistorySize then none else l.versionHistorySize := by
  cases key with
  | text k => simp [clear]
  | versionHistorySize => simp [clear]

/-- A text attribute has what the change leaves for it, or what it had. -/
theorem text_changed (l : Layer) (change : LayerChange) (k : TextKey) :
    (l.changed change).text k = (change.text? k).getD (l.text k) := by
  cases change with
  | assign key value =>
    rw [changed, text_put, LayerChange.text?]
    split <;> rfl
  | clear key =>
    rw [changed, text_clear, LayerChange.text?]
    split <;> rfl
  | reset toGlobalDefaults =>
    cases toGlobalDefaults <;> cases k <;> rfl
  | setSize size => exact text_setSize l size k
  | setSizeText text => exact text_setSize l _ k

/-- A number in range is kept as it is. -/
theorem map_toNat_map_ofNat {n : Option Nat} (h : ∀ k, n = some k → k < Size.bound) :
    (n.map UInt32.ofNat).map UInt32.toNat = n := by
  cases n with
  | none => rfl
  | some k =>
    have hk : (UInt32.ofNat k).toNat = k := UInt32.toNat_ofNat_of_lt' (h k rfl)
    rw [Option.map_some, Option.map_some, hk]

/-- The size is the one that the change leaves, or what it was. -/
theorem versionHistorySize_changed (l : Layer) {change : LayerChange} (h : change.IsAcceptable) :
    (l.changed change).versionHistorySize.map UInt32.toNat =
      change.size?.getD (l.versionHistorySize.map UInt32.toNat) := by
  cases change with
  | assign key value =>
    rw [changed, versionHistorySize_put, LayerChange.size?]
    split
    · rename_i hkey
      subst hkey
      exact map_toNat_map_ofNat fun n hn => Value.IsSize.lt_bound h hn
    · rfl
  | clear key =>
    rw [changed, versionHistorySize_clear, LayerChange.size?]
    split <;> rfl
  | reset toGlobalDefaults => cases toGlobalDefaults <;> rfl
  | setSize size => rfl
  | setSizeText text =>
    exact map_toNat_map_ofNat (n := some _) fun n hn => Option.some.inj hn ▸ h.2

end Layer

end TriggerPlan
