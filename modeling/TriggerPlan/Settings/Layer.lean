import TriggerPlan.Settings.Size
import TriggerPlan.Value

/-!
# Setting layers

Each level of the entity model owns a layer: the attributes that this level sets, all of them
optional. What a trigger sees is decided by `firstDefined` over the layers from its own outwards.
-/

namespace TriggerPlan

/-- The attributes that one level sets. -/
structure Layer where
  group : Option String := none
  baseDirectory : Option String := none
  releaseArtifact : Option String := none
  stagingArtifact : Option String := none
  stagingArtifactType : Option String := none
  stagingArtifactPackaging : Option String := none
  stagingTask : Option String := none
  versionHistorySize : Option UInt32 := none
  deriving DecidableEq, Repr, Inhabited

namespace Layer

/-! ## The built-in layers -/

/-- A layer that sets nothing. -/
def empty : Layer := {}

/-- The size of the version history where nothing sets it. -/
def defaultVersionHistorySize : UInt32 := 2

/-- What the outermost layer starts from. -/
def globalDefaults : Layer :=
  { stagingArtifactType := some "zip", versionHistorySize := some defaultVersionHistorySize }

/-! ## Attributes by key -/

/-- The value of a text attribute. -/
def text (l : Layer) : TextKey → Option String
  | .group => l.group
  | .baseDirectory => l.baseDirectory
  | .releaseArtifact => l.releaseArtifact
  | .stagingArtifact => l.stagingArtifact
  | .stagingArtifactType => l.stagingArtifactType
  | .stagingArtifactPackaging => l.stagingArtifactPackaging
  | .stagingTask => l.stagingTask

/-- The layer with one text attribute set, or unset if the value is `none`. -/
def setText (l : Layer) (k : TextKey) (v : Option String) : Layer :=
  match k with
  | .group => { l with group := v }
  | .baseDirectory => { l with baseDirectory := v }
  | .releaseArtifact => { l with releaseArtifact := v }
  | .stagingArtifact => { l with stagingArtifact := v }
  | .stagingArtifactType => { l with stagingArtifactType := v }
  | .stagingArtifactPackaging => { l with stagingArtifactPackaging := v }
  | .stagingTask => { l with stagingTask := v }

/-- The layer with the size set, or unset if the value is `none`. -/
def setSize (l : Layer) (v : Option UInt32) : Layer :=
  { l with versionHistorySize := v }

@[simp] theorem text_setText (l : Layer) (k k' : TextKey) (v : Option String) :
    (l.setText k v).text k' = if k' = k then v else l.text k' := by
  cases k <;> cases k' <;> rfl

@[simp] theorem versionHistorySize_setText (l : Layer) (k : TextKey) (v : Option String) :
    (l.setText k v).versionHistorySize = l.versionHistorySize := by
  cases k <;> rfl

@[simp] theorem text_setSize (l : Layer) (v : Option UInt32) (k : TextKey) :
    (l.setSize v).text k = l.text k := by
  cases k <;> rfl

@[simp] theorem versionHistorySize_setSize (l : Layer) (v : Option UInt32) :
    (l.setSize v).versionHistorySize = v := rfl

/-- Layers that agree on every attribute are equal. -/
theorem ext_text {l l' : Layer} (h : ∀ k, l.text k = l'.text k)
    (hs : l.versionHistorySize = l'.versionHistorySize) : l = l' := by
  have h1 := h .group
  have h2 := h .baseDirectory
  have h3 := h .releaseArtifact
  have h4 := h .stagingArtifact
  have h5 := h .stagingArtifactType
  have h6 := h .stagingArtifactPackaging
  have h7 := h .stagingTask
  cases l
  cases l'
  simp_all [text]

/-! ## Declared values -/

/-- The text that a declared value gives to `field` of the entity at `path`. The value `null` unsets
the field. -/
def textOfValue (path field : String) : Value → Except Error (Option String)
  | .null => .ok none
  | .string s => .ok (some s)
  | v => .error (.invalidConfiguration path field v.display
      ("expected a string, got " ++ v.typeName))

/-- The size that a declared value gives to the entity at `path`: an integer in range, or its
decimal text. The value `null` unsets the size. -/
def sizeOfValue (path : String) : Value → Except Error (Option UInt32)
  | .null => .ok none
  | .integer i =>
    if 0 ≤ i ∧ i < Size.bound then .ok (some (UInt32.ofNat i.toNat))
    else .error (.invalidConfiguration path SettingKey.versionHistorySize.name (toString i)
      "must be a non-negative integer")
  | .string s => some <$> Size.ofText path s
  | v => .error (.invalidConfiguration path SettingKey.versionHistorySize.name v.display
      ("expected an integer or decimal text, got " ++ v.typeName))

/-- The layer after a declared value is assigned to an attribute of the entity at `path`. -/
def assign (l : Layer) (path : String) (key : SettingKey) (v : Value) : Except Error Layer :=
  match key with
  | .text k => l.setText k <$> textOfValue path k.name v
  | .versionHistorySize => l.setSize <$> sizeOfValue path v

/-- The layer without a value for the attribute. -/
def clear (l : Layer) : SettingKey → Layer
  | .text k => l.setText k none
  | .versionHistorySize => l.setSize none

/-! ## Fallback -/

/-- The first value that `pick` finds in the layers, which are ordered from the most specific one
outwards. -/
def firstDefined {α : Type} (layers : List Layer) (pick : Layer → Option α) : Option α :=
  layers.findSome? pick

/-- The first value is that of the first layer, or else that of the others. -/
theorem firstDefined_cons {α : Type} (l : Layer) (ls : List Layer)
    (pick : Layer → Option α) :
    firstDefined (l :: ls) pick = (pick l).or (firstDefined ls pick) := by
  rw [firstDefined, List.findSome?_cons]
  cases pick l <;> rfl

end Layer

end TriggerPlan
