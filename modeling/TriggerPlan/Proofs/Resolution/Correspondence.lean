import TriggerPlan.Proofs.Resolution.Views

/-!
# Pipelines and the resolved model

A trigger is compiled as soon as its node is resolved, when its repository still lacks the later
triggers. The pipelines are nevertheless those of the final model: one for each of its views, and
compiled from it.
-/

namespace TriggerPlan

/-- The view of each trigger in a model is among its views. -/
theorem Model.mem_views {m : Model} {r : Repository} {t : Trigger}
    (hr : r ∈ m.repositories.values) (ht : t ∈ r.triggers.values) : ⟨m.settings, r, t⟩ ∈ m.views :=
  List.mem_flatMap.2 ⟨r, hr, List.mem_map_of_mem ht⟩

namespace Declaration.IsAccepted

variable {c : Compiler} {d : Declaration}

/-- A described trigger is found in the model by its names, and compiling it then gives its
pipeline. -/
theorem view?_and_compile (h : d.IsAccepted c.resources) {v : View} (hv : v ∈ d.views) :
    d.model.view? v.repository.name v.trigger.hostname = some v ∧
      c.compile v = .ok (c.pipeline v) := by
  constructor
  · exact h.view?_eq_some_iff.2 ⟨hv, rfl⟩
  · exact (c.compile_yields v _).2 ⟨h.missingResource?_eq_none hv, rfl⟩

end Declaration.IsAccepted

namespace Compiler

/-- The pipelines and the triggers of the resolved model correspond to each other: each trigger has
exactly one pipeline, which is compiled from the model, and there are no other pipelines. -/
theorem pipelines_correspond_to_model {c : Compiler} {d : Declaration} {res : Resolution}
    (hres : c.resolve d = .ok res) :
    (∀ r ∈ res.model.repositories.values, ∀ t ∈ r.triggers.values, ∃ p,
      res.model.view? r.name t.hostname = some ⟨res.model.settings, r, t⟩ ∧
      c.compile ⟨res.model.settings, r, t⟩ = .ok p ∧
      res.pipelines.filter (fun p => p.repository = r.name ∧ p.hostname = t.hostname) = [p]) ∧
    (∀ p ∈ res.pipelines, ∃ v,
      res.model.view? p.repository p.hostname = some v ∧ c.compile v = .ok p) ∧
    res.triggerCount = res.model.views.length := by
  -- the pipelines are those of the described views, and these are the views of the model
  obtain ⟨hd, rfl⟩ := (c.resolve_yields d res).1 hres
  refine ⟨?_, ?_, ?_⟩
  · intro r hr t ht
    have hv : ⟨d.model.settings, r, t⟩ ∈ d.views := hd.views_perm.mem_iff.1 (Model.mem_views hr ht)
    obtain ⟨hview, hcompile⟩ := hd.view?_and_compile hv
    exact ⟨c.pipeline ⟨d.model.settings, r, t⟩, hview, hcompile, hd.filter_pipelines hv⟩
  · intro p hp
    obtain ⟨v, hv, rfl⟩ := List.mem_map.1 hp
    exact ⟨v, hd.view?_and_compile hv⟩
  · rw [Resolution.triggerCount, List.length_map]
    exact hd.views_perm.length_eq.symm

/-- The host of the sample that is named like a setting has a pipeline of its own, one of two. -/
theorem pipelines_correspond_to_sample :
    (∃ p,
      Declaration.sample.model.view? "north" "group" =
        some (Declaration.sample.view Declaration.sampleRepository (.ofBlock "group" [])) ∧
      sample.compile (Declaration.sample.view Declaration.sampleRepository (.ofBlock "group" [])) =
        .ok p ∧
      (Declaration.sample.views.map sample.pipeline).filter
        (fun p => p.repository = "north" ∧ p.hostname = "group") = [p]) ∧
    (Declaration.sample.views.map sample.pipeline).length = 2 := by
  obtain ⟨htriggers, -, hcount⟩ := pipelines_correspond_to_model resolve_sample
  constructor
  · exact htriggers Declaration.sampleRepository.repository (by decide)
      ((Node.ofBlock "group" []).trigger "north") (by decide)
  · have hviews : Declaration.sample.model.views.length = 2 := by decide
    exact hcount.trans hviews

end Compiler

end TriggerPlan
