import TriggerPlan.Model.Basic

/-!
# Views of triggers

What holds for a trigger is decided by its own layer, that of its repository and the global one, in
this order. A view is a trigger together with its owners; its attributes are the resolved ones.
-/

namespace TriggerPlan

/-- A trigger, the repository that owns it, and the global layer. -/
structure View where
  global : Layer
  repository : Repository
  trigger : Trigger
  deriving DecidableEq, Inhabited

namespace View

/-- The layers that the trigger sees, from its own outwards. -/
def layers (v : View) : List Layer :=
  [v.trigger.settings, v.repository.settings, v.global]

/-- The first value that the trigger's layers define. -/
def firstDefined {α : Type} (v : View) (pick : Layer → Option α) : Option α :=
  Layer.firstDefined v.layers pick

/-- The first value in the layers of a view, level by level. -/
theorem firstDefined_eq_or {α : Type} (v : View) (pick : Layer → Option α) :
    v.firstDefined pick =
      (pick v.trigger.settings).or ((pick v.repository.settings).or (pick v.global)) := by
  have hnil : Layer.firstDefined [] pick = none := rfl
  rw [firstDefined, layers, Layer.firstDefined_cons, Layer.firstDefined_cons,
    Layer.firstDefined_cons, hnil, Option.or_none]

/-- The resolved value of a text attribute. -/
def text (v : View) (k : TextKey) : Option String :=
  v.firstDefined (·.text k)

/-- The packaging of the staged artifact: the hostname, unless a layer names another. -/
def stagingArtifactPackaging (v : View) : String :=
  (v.text .stagingArtifactPackaging).getD v.trigger.hostname

/-- How many versions are kept: the built-in number, unless a layer gives another. -/
def versionHistorySize (v : View) : UInt32 :=
  (v.firstDefined (·.versionHistorySize)).getD Layer.defaultVersionHistorySize

end View

namespace Model

/-- The view of the trigger that a repository has for a host. -/
def view? (m : Model) (repository hostname : String) : Option View := do
  let r ← m.repository? repository
  let t ← r.trigger? hostname
  return ⟨m.settings, r, t⟩

/-- The views of all triggers, ordered by repository and then by host. -/
def views (m : Model) : List View :=
  m.repositories.values.flatMap fun r => r.triggers.values.map (⟨m.settings, r, ·⟩)

end Model

end TriggerPlan
