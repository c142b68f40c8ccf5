import TriggerPlan.Proofs.Declaration.Deletion
import TriggerPlan.Proofs.Resolution.Views

/-!
# Resolving declarations with entities deleted

Siblings do not observe each other. If some repositories and hosts are deleted from a declaration,
the pipelines of the other triggers stay as they are and in their order, and so do the settings of
the entities that are left.
-/

namespace TriggerPlan

/-! ## Descriptions of what is left -/

/-- The last value for a name is the same without some entities. -/
theorem lastValue?_withoutEntities (gone : String → Bool) (name : String) (ns : List Node) :
    lastValue? name (withoutEntities gone ns) = lastValue? name ns := by
  rw [lastValue?, lastValue?, filter_sets_withoutEntities]

/-- The settings of a level are the same without some of its entities. -/
theorem Layer.putAll_withoutEntities (l : Layer) (gone : String → Bool) (ns : List Node) :
    l.putAll (withoutEntities gone ns) = l.putAll ns :=
  l.putAll_congr fun k => filter_sets_withoutEntities k.name

/-- The global layer is the same without some entities. -/
theorem Declaration.settings_without (d : Declaration) (s : EntitySet) :
    (d.without s).settings = d.settings := by
  rw [settings, settings, nodes_without]
  exact Layer.putAll_congr _ fun k => filter_sets_deleteEntities s k.name d.nodes

namespace Node

/-- A repository node without some of its hosts describes the repository with fewer triggers. -/
theorem repository_withoutHosts (s : EntitySet) {r : Node} (hr : r.hasValues = false) :
    (r.withoutHosts s).repository =
      r.repository.withTriggers
        (.ofList ((r.withoutHosts s).hostNodes.map fun h => (h.name, h.trigger r.name))) := by
  rw [repository, repository, Repository.withTriggers, children_withoutHosts s hr,
    name_withoutHosts, lastValue?_withoutEntities, lastValue?_withoutEntities,
    Layer.putAll_withoutEntities]

end Node

namespace Compiler

/-- The pipelines of the hosts that are left in a repository node. -/
theorem hostPipelines_withoutHosts (c : Compiler) (defaults : Layer) (s : EntitySet) {r : Node}
    (hr : r.hasValues = false) :
    c.hostPipelines defaults (r.withoutHosts s) =
      (c.hostPipelines defaults r).filter fun p => !s.hosts p.repository p.hostname := by
  rw [hostPipelines, hostPipelines, List.filter_map, Node.repository_withoutHosts s hr,
    Node.hostNodes_withoutHosts s hr, Node.name_withoutHosts]
  -- a pipeline does not depend on the other triggers of its repository
  rfl

/-- The pipelines of a repository node are those of its repository. -/
theorem repository_of_mem_hostPipelines {c : Compiler} {defaults : Layer} {r : Node}
    {p : Pipeline} (hp : p ∈ c.hostPipelines defaults r) : p.repository = r.name := by
  obtain ⟨h, -, rfl⟩ := List.mem_map.1 hp
  rfl

/-- The pipelines of the triggers that are left of a repository: none, if the repository is
deleted. -/
theorem filter_hostPipelines (c : Compiler) (defaults : Layer) (s : EntitySet) {r : Node}
    (hr : r.hasValues = false) :
    ((c.hostPipelines defaults r).filter fun p => !s.takes p.repository p.hostname) =
      if s.repositories r.name then [] else c.hostPipelines defaults (r.withoutHosts s) := by
  have htakes : ∀ p ∈ c.hostPipelines defaults r,
      s.takes p.repository p.hostname =
        (s.repositories r.name || s.hosts p.repository p.hostname) := by
    intro p hp
    rw [EntitySet.takes, repository_of_mem_hostPipelines hp]
  rw [List.filter_congr fun p hp => congrArg not (htakes p hp)]
  cases s.repositories r.name with
  | true => simp
  | false =>
    rw [if_neg Bool.false_ne_true, hostPipelines_withoutHosts c defaults s hr]
    simp only [Bool.false_or]

/-- The pipelines of the triggers that are left in a declaration. -/
theorem map_pipeline_views_without (c : Compiler) (d : Declaration) (s : EntitySet) :
    (d.without s).views.map c.pipeline =
      (d.views.map c.pipeline).filter fun p => !s.takes p.repository p.hostname := by
  have hvalues : ∀ r ∈ d.repositoryNodes, r.hasValues = false :=
    fun r hr => (mem_entityNodes.1 hr).2
  rw [map_pipeline_views, map_pipeline_views, d.settings_without, d.repositoryNodes_without,
    List.flatMap_map, List.filter_flatMap]
  generalize d.repositoryNodes = rs at hvalues
  induction rs with
  | nil => rfl
  | cons r rs ih =>
    rw [List.forall_mem_cons] at hvalues
    rw [List.flatMap_cons, filter_hostPipelines c d.settings s hvalues.1, ← ih hvalues.2]
    cases hgone : s.repositories r.name with
    | true => rw [List.filter_cons_of_neg (by simp [hgone]), if_pos rfl, List.nil_append]
    | false =>
      rw [List.filter_cons_of_pos (by simp [hgone]), List.flatMap_cons,
        if_neg Bool.false_ne_true]

end Compiler

/-! ## Look-up in what is left -/

/-- The first node of a name is found among those that are left if its name is not gone. -/
theorem find?_filter_name (gone : String → Bool) (name : String) (ns : List Node) :
    ((ns.filter fun n => !gone n.name).find? fun n => n.name = name) =
      if gone name then none else ns.find? fun n => n.name = name := by
  rw [List.find?_filter]
  cases hgone : gone name with
  | true =>
    rw [if_pos rfl, List.find?_eq_none]
    rintro n - hn
    simp only [Bool.not_eq_eq_eq_not, Bool.not_true, decide_eq_true_eq] at hn
    rw [hn.2, hgone] at hn
    exact Bool.noConfusion hn.1
  | false =>
    rw [if_neg Bool.false_ne_true]
    refine congrArg (ns.find? ·) (funext fun n => decide_eq_decide.2 ?_)
    rw [decide_eq_true_eq, and_iff_right_iff_imp]
    intro hn
    rw [hn, hgone, Bool.not_false]

namespace Declaration.IsAccepted

variable {d : Declaration} {resources : ResourceSource}

/-- The repositories that are left are found with fewer triggers, and the deleted ones are not
found. -/
theorem repository?_model_without (hd : d.IsAccepted resources) (s : EntitySet) (name : String) :
    (d.without s).model.repository? name =
      if s.repositories name then none
      else (d.repositoryNodes.find? fun r => r.name = name).map fun r =>
        (r.withoutHosts s).repository := by
  have hname : (fun r : Node => decide (r.name = name)) ∘ Node.withoutHosts s =
      fun r : Node => decide (r.name = name) := by
    funext r
    rw [Function.comp_apply, Node.name_withoutHosts]
  rw [(hd.without s).repository?_model, d.repositoryNodes_without, List.find?_map, hname,
    find?_filter_name]
  cases s.repositories name with
  | true => rfl
  | false =>
    rw [if_neg Bool.false_ne_true, if_neg Bool.false_ne_true, Option.map_map]
    rfl

/-- The triggers that are left of a repository are found as before, and the deleted ones are not
found. -/
theorem trigger?_withoutHosts (hd : d.IsAccepted resources) (s : EntitySet) {r : Node}
    (hr : r ∈ d.repositoryNodes) (hostname : String) :
    (r.withoutHosts s).repository.trigger? hostname =
      if s.hosts r.name hostname then none else r.repository.trigger? hostname := by
  have hvalues : r.hasValues = false := (mem_entityNodes.1 hr).2
  have hdistinct : ((r.withoutHosts s).hostNodes.map (·.name)).Nodup := by
    rw [Node.hostNodes_withoutHosts s hvalues]
    exact (hd.repositories r hr).level.distinct.sublist (List.filter_sublist.map _)
  rw [hd.trigger?_repository hr, Node.repository_withoutHosts s hvalues]
  refine (SortedMap.get?_ofList_map hdistinct hostname).trans ?_
  rw [Node.hostNodes_withoutHosts s hvalues,
    find?_filter_name (s.hosts r.name) hostname r.hostNodes]
  cases s.hosts r.name hostname <;> rfl

/-- The triggers that are left are found as before, and the deleted ones are not found. -/
theorem trigger?_without (hd : d.IsAccepted resources) (s : EntitySet) (name hostname : String) :
    (d.without s).model.trigger? name hostname =
      if s.takes name hostname then none else d.model.trigger? name hostname := by
  rw [Model.trigger?, Model.trigger?, hd.repository?_model_without, hd.repository?_model,
    EntitySet.takes]
  cases s.repositories name with
  | true => rfl
  | false =>
    rw [if_neg Bool.false_ne_true, Bool.false_or]
    cases hr : d.repositoryNodes.find? fun r => r.name = name with
    | none => rw [Option.map_none, Option.map_none, Option.bind_none, ite_self]
    | some r =>
      have hmem : r ∈ d.repositoryNodes := List.mem_of_find?_eq_some hr
      have hname : r.name = name := by simpa using List.find?_some hr
      rw [Option.map_some, Option.map_some, Option.bind_some, Option.bind_some,
        hd.trigger?_withoutHosts s hmem, hname]

/-- The repositories that are left have all that they had but for their triggers. -/
theorem repository?_without (hd : d.IsAccepted resources) (s : EntitySet) (name : String) :
    ((d.without s).model.repository? name).map (·.withTriggers .empty) =
      if s.repositories name then none
      else (d.model.repository? name).map (·.withTriggers .empty) := by
  rw [hd.repository?_model_without, hd.repository?_model]
  cases s.repositories name with
  | true => rfl
  | false =>
    rw [if_neg Bool.false_ne_true, if_neg Bool.false_ne_true, Option.map_map, Option.map_map]
    refine Option.map_congr fun r hr => ?_
    have hmem : r ∈ d.repositoryNodes := List.mem_of_find?_eq_some hr
    rw [Function.comp_apply, Function.comp_apply,
      Node.repository_withoutHosts s (mem_entityNodes.1 hmem).2]
    rfl

end Declaration.IsAccepted

namespace Compiler

/-- Deleting entities from a declaration that can be resolved leaves one that can be resolved. The
pipelines are those of before without the ones of the deleted triggers, the global layer is the same,
the other repositories are the same but for their deleted triggers, and so are the other triggers. -/
theorem resolve_without {c : Compiler} {d : Declaration} {res : Resolution}
    (hres : c.resolve d = .ok res) (s : EntitySet) :
    ∃ res', c.resolve (d.without s) = .ok res' ∧
      res'.pipelines = res.pipelines.filter (fun p => !s.takes p.repository p.hostname) ∧
      res'.model.settings = res.model.settings ∧
      (∀ name, (res'.model.repository? name).map (·.withTriggers .empty) =
        if s.repositories name then none
        else (res.model.repository? name).map (·.withTriggers .empty)) ∧
      ∀ name hostname, res'.model.trigger? name hostname =
        if s.takes name hostname then none else res.model.trigger? name hostname := by
  obtain ⟨hd, rfl⟩ := (c.resolve_yields d res).1 hres
  refine ⟨_, (c.resolve_yields (d.without s) _).2 ⟨hd.without s, rfl⟩, ?_, ?_, ?_, ?_⟩
  · exact c.map_pipeline_views_without d s
  · exact d.settings_without s
  · exact hd.repository?_without s
  · exact hd.trigger?_without s

/-- The second host of the sample keeps its pipeline when the first is deleted, and has the layer it
had. -/
theorem resolve_sample_without_alpha :
    ∃ res', sample.resolve
        (Declaration.sample.without ⟨fun _ => false, fun r h => r = "north" ∧ h = "alpha"⟩) =
          .ok res' ∧
      res'.pipelines =
        [sample.pipeline
          (Declaration.sample.view Declaration.sampleRepository (.ofBlock "group" []))] ∧
      res'.model.trigger? "north" "alpha" = none ∧
      res'.model.trigger? "north" "group" = Declaration.sample.model.trigger? "north" "group" := by
  obtain ⟨res', hres', hpipelines, -, -, htriggers⟩ := resolve_without resolve_sample
    ⟨fun _ => false, fun r h => r = "north" ∧ h = "alpha"⟩
  refine ⟨res', hres', ?_, ?_, ?_⟩
  · rw [hpipelines]
    rfl
  · exact htriggers "north" "alpha"
  · exact htriggers "north" "group"

end Compiler

end TriggerPlan
