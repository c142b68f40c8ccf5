import TriggerPlan.Proofs.Failure
import TriggerPlan.Settings.Layer

/-!
# Errors about values

A value that cannot be assigned is reported at the path of its entity, under the name of the
attribute (`Layer.assign_reports`).
-/

namespace TriggerPlan

/-- The error is about a field of the entity at a path, whatever the value and the reason. -/
def Error.IsAbout (e : Error) (path field : String) : Prop :=
  ∃ value reason, e = .invalidConfiguration path field value reason

theorem Error.isAbout (path field value reason : String) :
    (Error.invalidConfiguration path field value reason).IsAbout path field :=
  ⟨value, reason, rfl⟩

theorem Size.ofText_reports (path s : String) :
    Reports (ofText path s) (·.IsAbout path SettingKey.versionHistorySize.name) := by
  unfold ofText
  split
  · exact Reports.ok _
  · exact Reports.error (Error.isAbout ..)

namespace Layer

theorem textOfValue_reports (path field : String) (v : Value) :
    Reports (textOfValue path field v) (·.IsAbout path field) := by
  cases v with
  | string s => exact Reports.ok _
  | null => exact Reports.ok _
  | integer i => exact Reports.error (Error.isAbout ..)
  | float x => exact Reports.error (Error.isAbout ..)
  | boolean b => exact Reports.error (Error.isAbout ..)

theorem sizeOfValue_reports (path : String) (v : Value) :
    Reports (sizeOfValue path v) (·.IsAbout path SettingKey.versionHistorySize.name) := by
  cases v with
  | string s => exact (Size.ofText_reports path s).map some
  | null => exact Reports.ok _
  | integer i =>
    exact Reports.refuse (fun _ => Reports.ok _) fun _ => Reports.error (Error.isAbout ..)
  | float x => exact Reports.error (Error.isAbout ..)
  | boolean b => exact Reports.error (Error.isAbout ..)

theorem assign_reports (l : Layer) (path : String) (key : SettingKey) (v : Value) :
    Reports (l.assign path key v) (·.IsAbout path key.name) := by
  cases key with
  | text k => exact (textOfValue_reports path k.name v).map (l.setText k)
  | versionHistorySize => exact (sizeOfValue_reports path v).map l.setSize

end Layer

end TriggerPlan
