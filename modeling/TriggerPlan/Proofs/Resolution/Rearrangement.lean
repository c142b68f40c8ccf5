import TriggerPlan.Proofs.Declaration.Rearrangement
import TriggerPlan.Proofs.Resolution.Views

/-!
# Resolving rearranged declarations

A rearranged declaration describes the same model, since each attribute has the last value given for
its key, and the settings for one key stay in order. Its pipelines are the same ones in another
order.
-/

namespace TriggerPlan

/-! ## The same descriptions -/

namespace Node.RearrangedBy

variable {n n' : Node}

/-- A host node with a rearranged block describes the same trigger. -/
theorem trigger_eq (h : n.RearrangedBy HostRearranged n') (repository : String) :
    n.trigger repository = n'.trigger repository := by
  rcases h with rfl | ⟨hname, -, -, hblocks⟩
  · rfl
  · rw [Node.trigger, Node.trigger, hname, Layer.putAll_congr _ hblocks.order]

/-- A repository node with a rearranged block describes the same repository, if its hosts have
different names. -/
theorem repository_eq (h : n.RearrangedBy RepositoryRearranged n') (hn : n.IsRepository) :
    n.repository = n'.repository := by
  rcases h with rfl | ⟨hname, -, -, hblocks⟩
  · rfl
  have hlast (k : RepositoryKey) :
      lastValue? k.name n.children = lastValue? k.name n'.children := by
    rw [lastValue?, lastValue?, hblocks.order k]
  have hsettings : Layer.empty.putAll n.children = Layer.empty.putAll n'.children :=
    Layer.putAll_congr _ fun k => hblocks.order (.setting k)
  -- the triggers come in another order, which a map with distinct names does not show
  have htriggers : SortedMap.ofList (n.hostNodes.map fun m => (m.name, m.trigger n.name)) =
      SortedMap.ofList (n'.hostNodes.map fun m => (m.name, m.trigger n.name)) := by
    refine SortedMap.ofList_eq_of_perm ?_ ?_
    · exact hblocks.map_entityNodes_perm fun m _ m' hm => by rw [hm.name_eq, hm.trigger_eq]
    · rw [List.map_map]
      exact hn.level.distinct
  rw [Node.repository, Node.repository, hlast, hlast, hsettings, htriggers, hname]

end Node.RearrangedBy

namespace Declaration.Rearranged

variable {d d' : Declaration} {s : ResourceSource}

theorem settings_eq (h : d.Rearranged d') : d.settings = d'.settings :=
  Layer.putAll_congr _ h.level.order

/-- A rearranged declaration describes the same model. -/
theorem model_eq (h : d.Rearranged d') (hd : d.IsAccepted s) : d.model = d'.model := by
  have hrepositories : SortedMap.ofList (d.repositoryNodes.map fun r => (r.name, r.repository)) =
      SortedMap.ofList (d'.repositoryNodes.map fun r => (r.name, r.repository)) := by
    refine SortedMap.ofList_eq_of_perm (h.level.map_entityNodes_perm ?_) hd.nodup_repositories
    intro r hr r' hrr
    rw [hrr.name_eq, hrr.repository_eq (hd.repositories r hr)]
  rw [model, model, h.settings_eq, hrepositories]

/-- Its views are the same ones in another order, as those of the model do not change. -/
theorem views_perm (h : d.Rearranged d') (hd : d.IsAccepted s) : d.views.Perm d'.views := by
  have hd' : d'.IsAccepted s := h.isAccepted_iff.1 hd
  -- both lists are permutations of the views of one model
  refine hd.views_perm.symm.trans ?_
  rw [h.model_eq hd]
  exact hd'.views_perm

end Declaration.Rearranged

namespace Compiler

/-- Rearranging a declaration does not affect whether resolution succeeds, nor the model; the
pipelines are permuted. -/
theorem resolve_rearranged {c : Compiler} {d d' : Declaration} (h : d.Rearranged d') :
    ((∃ res, c.resolve d = .ok res) ↔ ∃ res', c.resolve d' = .ok res') ∧
    ∀ res res', c.resolve d = .ok res → c.resolve d' = .ok res' →
      res.model = res'.model ∧ res.pipelines.Perm res'.pipelines := by
  constructor
  · rw [(c.resolve_yields d).exists_iff, (c.resolve_yields d').exists_iff, h.isAccepted_iff]
  · intro res res' hres hres'
    obtain ⟨hd, rfl⟩ := (c.resolve_yields d res).1 hres
    obtain ⟨-, rfl⟩ := (c.resolve_yields d' res').1 hres'
    exact ⟨h.model_eq hd, (h.views_perm hd).map c.pipeline⟩

/-- The rearranged sample is accepted like the sample, and with the same model. -/
theorem resolve_rearrangedSample :
    ∃ res, sample.resolve .rearrangedSample = .ok res ∧ Declaration.sample.model = res.model ∧
      (Declaration.sample.views.map sample.pipeline).Perm res.pipelines := by
  obtain ⟨hiff, heq⟩ := resolve_rearranged (c := sample) Declaration.sample_rearranged
  obtain ⟨res, hres⟩ := hiff.1 ⟨_, resolve_sample⟩
  exact ⟨res, hres, heq _ res resolve_sample hres⟩

end Compiler

end TriggerPlan
