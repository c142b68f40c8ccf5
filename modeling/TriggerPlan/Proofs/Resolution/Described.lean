import TriggerPlan.Proofs.Model.Creation
import TriggerPlan.Proofs.Resolution.Settings

/-!
# What a declaration describes

The model and the views of triggers that a declaration describes, read off its tree without regard
to the order in which resolution goes through it, and what the compilation of a trigger gives.
-/

namespace TriggerPlan

/-! ## The described model -/

/-- The trigger that a node describes as a host of a repository. -/
def Node.trigger (n : Node) (repository : String) : Trigger :=
  { Trigger.new repository n.name with settings := Layer.empty.putAll n.children }

/-- The repository that a node describes. -/
def Node.repository (n : Node) : Repository where
  name := n.name
  contextUrl := (lastValue? RepositoryKey.contextUrl.name n.children).bind Value.text?
  repoKey := (lastValue? RepositoryKey.repoKey.name n.children).bind Value.text?
  settings := Layer.empty.putAll n.children
  triggers := .ofList (n.hostNodes.map fun h => (h.name, h.trigger n.name))

namespace Declaration

/-- The global layer that a declaration describes. -/
def settings (d : Declaration) : Layer :=
  Layer.globalDefaults.putAll d.nodes

/-- The model that a declaration describes. -/
def model (d : Declaration) : Model :=
  ⟨d.settings, .ofList (d.repositoryNodes.map fun r => (r.name, r.repository))⟩

/-- The view of the trigger that a host node in a repository node describes. -/
def view (d : Declaration) (r h : Node) : View :=
  ⟨d.settings, r.repository, h.trigger r.name⟩

/-- The views of the triggers that a declaration describes, in the order of their nodes. -/
def views (d : Declaration) : List View :=
  d.repositoryNodes.flatMap fun r => r.hostNodes.map (d.view r)

end Declaration

namespace Compiler

/-! ## Compilation -/

/-- The pipeline of a trigger whose resources are all available. -/
def pipeline (c : Compiler) (v : View) : Pipeline where
  trigger := v.trigger.name
  repository := v.repository.name
  hostname := v.trigger.hostname
  steps := triggerSteps v.trigger.name (c.layout v) (v.context c.properties)

theorem compile_yields (c : Compiler) (v : View) :
    Yields (c.compile v) (c.missingResource? = none) (c.pipeline v) := by
  unfold compile
  cases h : c.missingResource? with
  | none => exact Yields.ok _ rfl
  | some resource => exact Yields.error _ _ nofun

theorem missingResource?_eq_none_iff {c : Compiler} :
    c.missingResource? = none ↔
      ∀ name ∈ neededResources, c.resources.contains name = true := by
  rw [missingResource?, wrapperResources_append_templateResources, List.find?_eq_none]
  simp only [Bool.not_eq_eq_eq_not, Bool.not_true, Bool.not_eq_false]

end Compiler

end TriggerPlan
