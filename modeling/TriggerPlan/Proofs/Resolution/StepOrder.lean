import TriggerPlan.Proofs.Pipeline.Order
import TriggerPlan.Proofs.Resolution.TriggerNames

/-!
# Running the steps of a resolution

The needs of the steps are all that an executor has to respect. In every order that does, the steps
of each trigger find what they read, since what a step reads is made by a step that it needs
(`Compiler.exists_maker`). If the triggers have different names, one such order is that of the
pipelines, one after the other (`Compiler.respectsNeeds_flatMap_steps`).
-/

namespace TriggerPlan

/-! ## Needs by kind -/

/-- The kinds of the steps that a step of this kind needs. -/
def StepKind.needs : StepKind → List StepKind
  | materializeFixed => []
  | materializeTemplates => []
  | render => [materializeTemplates]
  | archive => [render, materializeFixed]
  | publish => [archive]

namespace Compiler

variable {c : Compiler} {v w : View} {s t : Step} {order : List Step}

/-! ## The steps of one trigger -/

/-- A compiled pipeline has a step of each kind. -/
theorem exists_step_of_kind (c : Compiler) (v : View) (k : StepKind) :
    ∃ s ∈ (c.pipeline v).steps, s.kind = k := by
  have hkinds : k ∈ (c.pipeline v).steps.map (·.kind) := k.mem_all
  exact List.mem_map.1 hkinds

/-- The identifier and the needs of a step follow from its kind and the name of its trigger. -/
theorem id_and_needs_of_mem_steps (hs : s ∈ (c.pipeline v).steps) :
    s.id = s.kind.stepId v.trigger.name ∧
      s.needs = s.kind.needs.map (·.stepId v.trigger.name) := by
  simp only [pipeline, triggerSteps, List.mem_cons, List.not_mem_nil, or_false] at hs
  rcases hs with rfl | rfl | rfl | rfl | rfl <;> exact ⟨rfl, rfl⟩

/-- Whether a step needs another is decided by their kinds and the names of their triggers. -/
theorem id_mem_needs_iff (hs : s ∈ (c.pipeline v).steps) (ht : t ∈ (c.pipeline w).steps) :
    t.id ∈ s.needs ↔ t.kind ∈ s.kind.needs ∧ v.trigger.name = w.trigger.name := by
  rw [(id_and_needs_of_mem_steps ht).1, (id_and_needs_of_mem_steps hs).2, List.mem_map]
  constructor
  · rintro ⟨k, hk, hid⟩
    obtain ⟨rfl, hname⟩ := StepKind.stepId_injective hid
    exact ⟨hk, hname⟩
  · rintro ⟨hk, hname⟩
    exact ⟨t.kind, hk, by rw [hname]⟩

/-- What a step reads is made by a step that it needs. -/
theorem exists_maker (hs : s ∈ (c.pipeline v).steps) {path : Path} (hpath : path ∈ s.inputs) :
    ∃ t ∈ (c.pipeline v).steps, t.kind ∈ s.kind.needs ∧ t.Makes path := by
  simp only [pipeline, triggerSteps, List.mem_cons, List.not_mem_nil, or_false] at hs
  rcases hs with rfl | rfl | rfl | rfl | rfl
  · exact absurd hpath List.not_mem_nil
  · exact absurd hpath List.not_mem_nil
  · -- rendering reads the directory that the templates are copied to
    obtain rfl := List.mem_singleton.1 hpath
    exact ⟨_, List.mem_cons_of_mem _ List.mem_cons_self, List.mem_cons_self, .inr ⟨_, _, rfl⟩⟩
  · -- packing reads the directory that is rendered to
    obtain rfl := List.mem_singleton.1 hpath
    exact ⟨_, List.mem_cons_of_mem _ (List.mem_cons_of_mem _ List.mem_cons_self),
      List.mem_cons_self, .inl List.mem_cons_self⟩
  · -- publishing reads the archive
    obtain rfl := List.mem_singleton.1 hpath
    exact ⟨_, List.mem_cons_of_mem _ (List.mem_cons_of_mem _
      (List.mem_cons_of_mem _ List.mem_cons_self)), List.mem_cons_self, .inl List.mem_cons_self⟩

/-- What a step needs are the identifiers of steps of the same pipeline. -/
theorem exists_needed (hs : s ∈ (c.pipeline v).steps) {id : String} (hid : id ∈ s.needs) :
    ∃ t ∈ (c.pipeline v).steps, t.id = id := by
  rw [(id_and_needs_of_mem_steps hs).2] at hid
  obtain ⟨k, -, rfl⟩ := List.mem_map.1 hid
  obtain ⟨t, ht, rfl⟩ := exists_step_of_kind c v k
  exact ⟨t, ht, (id_and_needs_of_mem_steps ht).1⟩

/-! ## Every order that respects the needs -/

/-- The steps of a trigger come after those of the kinds that they need. -/
theorem before_of_kind_mem_needs (horder : RespectsNeeds order)
    (hmem : ∀ s ∈ (c.pipeline v).steps, s ∈ order) (ht : t ∈ (c.pipeline v).steps)
    (hs : s ∈ (c.pipeline v).steps) (hkind : t.kind ∈ s.kind.needs) : Step.Before order t s :=
  horder s (hmem s hs) t (hmem t ht) ((id_mem_needs_iff hs ht).2 ⟨hkind, rfl⟩)

/-- A pipeline runs in every order of its steps and others that respects the needs. -/
theorem runsIn_of_respectsNeeds (horder : RespectsNeeds order)
    (hmem : ∀ s ∈ (c.pipeline v).steps, s ∈ order) : (c.pipeline v).RunsIn order where
  kinds := rfl
  inputs := by
    intro s hs path hpath
    obtain ⟨t, ht, hkind, hmakes⟩ := exists_maker hs hpath
    exact ⟨t, ht, before_of_kind_mem_needs horder hmem ht hs hkind, hmakes⟩
  archive := by
    intro s hs hsk t ht htk
    rcases htk with htk | htk | htk
    · exact before_of_kind_mem_needs horder hmem ht hs (by rw [hsk, htk]; decide)
    · -- the archive does not need the templates itself, but the rendering does
      obtain ⟨r, hr, hrk⟩ := exists_step_of_kind c v .render
      have hcopied : Step.Before order t r :=
        before_of_kind_mem_needs horder hmem ht hr (by rw [hrk, htk]; decide)
      have hrendered : Step.Before order r s :=
        before_of_kind_mem_needs horder hmem hr hs (by rw [hsk, hrk]; decide)
      exact hcopied.trans hrendered
    · exact before_of_kind_mem_needs horder hmem ht hs (by rw [hsk, htk]; decide)
  publish := by
    intro s hs hsk t ht htk
    exact before_of_kind_mem_needs horder hmem ht hs (by rw [hsk, htk]; decide)
  artifact := ⟨(c.layout v).archive, (c.layout v).triggerDir, v.trigger.name.text,
    (c.layout v).templatesDir, v.context c.properties, wrapperResources, executableResources,
    rfl, rfl, rfl, rfl⟩

/-! ## One such order -/

/-- The order of the kinds in a pipeline puts each kind after those it needs. -/
theorem pairwise_kind_not_mem_needs :
    StepKind.all.Pairwise fun k k' => k' ∉ k.needs := by
  decide

/-- The pipelines of triggers with different names, one after the other, respect the needs. -/
theorem respectsNeeds_flatMap_steps (c : Compiler) {vs : List View}
    (hnames : (vs.map (·.trigger.name)).Nodup) :
    RespectsNeeds ((vs.map c.pipeline).flatMap (·.steps)) := by
  rw [List.flatMap_map]
  refine respectsNeeds_of_pairwise (fun s hs => ?_) (List.pairwise_flatMap.2 ⟨fun v _ => ?_, ?_⟩)
  · obtain ⟨v, -, hsv⟩ := List.mem_flatMap.1 hs
    have hself : ∀ k : StepKind, k ∉ k.needs := by rintro ⟨⟩ <;> decide
    rw [id_mem_needs_iff hsv hsv]
    exact fun h => hself _ h.1
  · -- within a pipeline the kinds decide
    have hkinds : ((c.pipeline v).steps.map (·.kind)).Pairwise fun k k' => k' ∉ k.needs :=
      pairwise_kind_not_mem_needs
    rw [List.pairwise_map] at hkinds
    refine hkinds.imp_of_mem fun {s t} hs ht hneeds => ?_
    rw [id_mem_needs_iff hs ht]
    exact fun h => hneeds h.1
  · -- between pipelines the names of the triggers decide
    refine (List.pairwise_map.1 hnames).imp fun {v w} hne s hs t ht => ?_
    rw [id_mem_needs_iff hs ht]
    exact fun h => hne h.2

example : ¬RespectsNeeds (Declaration.sample.views.flatMap fun v =>
    (sample.pipeline v).steps.reverse) := by
  decide +kernel

/-! ## Resolutions -/

/-- If the triggers have different names, each of the pipelines runs in every order of all steps that
respects the needs. The pipelines in their own order are such an order, and only steps are needed. -/
theorem needs_suffice {c : Compiler} {d : Declaration} {res : Resolution}
    (hres : c.resolve d = .ok res) (hnames : res.model.triggerNames.Nodup) :
    (∀ order, order.Perm res.steps → RespectsNeeds order →
      ∀ p ∈ res.pipelines, p.RunsIn order) ∧
    RespectsNeeds res.steps ∧
    ∀ s ∈ res.steps, ∀ id ∈ s.needs, ∃ t ∈ res.steps, t.id = id := by
  obtain ⟨hd, rfl⟩ := (c.resolve_yields d res).1 hres
  refine ⟨fun order hperm horder p hp => ?_, ?_, fun s hs id hid => ?_⟩
  · obtain ⟨v, -, rfl⟩ := List.mem_map.1 hp
    exact runsIn_of_respectsNeeds horder fun s hs =>
      hperm.mem_iff.2 (List.mem_flatMap.2 ⟨_, hp, hs⟩)
  · exact c.respectsNeeds_flatMap_steps (hd.triggerNames_perm.nodup_iff.1 hnames)
  · obtain ⟨p, hp, hsp⟩ := List.mem_flatMap.1 hs
    obtain ⟨v, -, rfl⟩ := List.mem_map.1 hp
    obtain ⟨t, ht, hid⟩ := exists_needed hsp hid
    exact ⟨t, List.mem_flatMap.2 ⟨_, hp, ht⟩, hid⟩

/-- The steps of two pipelines in another order: while the first pipeline waits with its rendering,
the second one is run. -/
def interleaved (steps : List Step) : List Step :=
  steps.take 2 ++ steps.drop 5 ++ (steps.take 5).drop 2

theorem interleaved_perm (steps : List Step) : (interleaved steps).Perm steps := by
  have hfirst : steps.take 2 ++ (steps.take 5).drop 2 = steps.take 5 := by
    have htake : steps.take 2 = (steps.take 5).take 2 := by
      rw [List.take_take]
      rfl
    rw [htake, List.take_append_drop]
  have hsteps : steps.take 2 ++ (steps.take 5).drop 2 ++ steps.drop 5 = steps := by
    rw [hfirst, List.take_append_drop]
  have hswap : (steps.drop 5 ++ (steps.take 5).drop 2).Perm
      ((steps.take 5).drop 2 ++ steps.drop 5) := List.perm_append_comm
  rw [List.append_assoc] at hsteps
  rw [interleaved, List.append_assoc]
  exact (hswap.append_left _).trans (List.Perm.of_eq hsteps)

/-- Both pipelines of the sample run in that order. In each of them the last three steps read what
has been made for the same host. -/
theorem runsIn_interleaved_of_sample :
    let res : Resolution :=
      ⟨Declaration.sample.model, Declaration.sample.views.map sample.pipeline⟩
    res.pipelines.length = 2 ∧ (∀ p ∈ res.pipelines, p.RunsIn (interleaved res.steps)) ∧
      res.steps.map (fun s => s.inputs.map (·.text)) =
        [[], [], ["build/vtl/north/alpha"], ["build/triggers/north/alpha"],
          ["build/distributions/northAlpha.zip"], [], [], ["build/vtl/north/group"],
          ["build/triggers/north/group"], ["build/distributions/northGroup.zip"]] := by
  intro res
  obtain ⟨hruns, -, -⟩ := needs_suffice resolve_sample (by decide +kernel)
  have horder : RespectsNeeds (interleaved res.steps) :=
    respectsNeeds_of_pairwise (by decide +kernel) (by decide +kernel)
  exact ⟨rfl, hruns _ (interleaved_perm _) horder, by decide +kernel⟩

end Compiler

end TriggerPlan
