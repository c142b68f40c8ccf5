import TriggerPlan.Proofs.Model.Layers
import TriggerPlan.Proofs.Resolution.Views
import TriggerPlan.Proofs.Text.ByteOrder

/-!
# The invariant of models

What holds of every model that a run of operations reaches and of every model that a declaration is
resolved to (`Model.invariant`): the names of its entities agree, a look-up finds exactly the
triggers that have been created, and the list of all triggers has each of them once, in the order of
their names. Operations neither remove nor rename an entity.
-/

namespace TriggerPlan

/-! ## The order of triggers -/

/-- The trigger comes before the other one: repositories are ordered by the bytes of their names, and
the hosts of one repository by those of theirs. -/
def View.Before (v w : View) : Prop :=
  Text.utf8 v.repository.name < Text.utf8 w.repository.name ∨
    v.repository.name = w.repository.name ∧
      Text.utf8 v.trigger.hostname < Text.utf8 w.trigger.hostname

/-- No trigger comes before itself. -/
theorem View.Before.ne {v w : View} (h : v.Before w) : v ≠ w := by
  rintro rfl
  rcases h with hname | ⟨-, hhost⟩
  · exact List.lt_irrefl _ hname
  · exact List.lt_irrefl _ hhost

/-- The values of a map are sorted by the keys that they carry themselves. -/
theorem SortedMap.values_pairwise {α : Type} {map : SortedMap String α} {key : α → String}
    (hkey : ∀ k a, map.get? k = some a → key a = k) :
    map.values.Pairwise fun a b => Text.utf8 (key a) < Text.utf8 (key b) := by
  rw [values, List.pairwise_map]
  refine map.sorted.imp_of_mem ?_
  intro e f he hf hef
  rw [Text.utf8_lt_utf8_iff, hkey e.1 e.2 (mem_toList_iff.1 he), hkey f.1 f.2 (mem_toList_iff.1 hf)]
  exact hef

/-- A value is in a map if the key that it carries leads to it. -/
theorem SortedMap.mem_values_iff {α : Type} {map : SortedMap String α} {key : α → String}
    (hkey : ∀ k a, map.get? k = some a → key a = k) {a : α} :
    a ∈ map.values ↔ map.get? (key a) = some a := by
  rw [values, List.mem_map]
  constructor
  · rintro ⟨⟨k, a⟩, he, rfl⟩
    have hk : map.get? k = some a := mem_toList_iff.1 he
    rw [hkey k a hk]
    exact hk
  · intro ha
    exact ⟨(key a, a), mem_toList_iff.2 ha, rfl⟩

namespace Model.IsConsistent

variable {m : Model} (hm : m.IsConsistent)
include hm

theorem hostname_of_get? {name : String} {r : Repository} (hr : m.repository? name = some r)
    (hostname : String) (t : Trigger) (ht : r.triggers.get? hostname = some t) :
    t.hostname = hostname :=
  ((hm.repositories name r hr).triggers hostname t ht).hostname

/-- The list of triggers is sorted. -/
theorem views_sorted : m.views.Pairwise View.Before := by
  have hmem {r : Repository} (hr : r ∈ m.repositories.values) : m.repository? r.name = some r :=
    (SortedMap.mem_values_iff hm.stored).1 hr
  rw [views, List.pairwise_flatMap]
  constructor
  · intro r hr
    rw [List.pairwise_map]
    have hhosts := SortedMap.values_pairwise (hm.hostname_of_get? (hmem hr))
    exact hhosts.imp fun h => .inr ⟨rfl, h⟩
  · have hnames := SortedMap.values_pairwise hm.stored
    refine hnames.imp fun hrr' v hv w hw => .inl ?_
    obtain ⟨t, -, rfl⟩ := List.mem_map.1 hv
    obtain ⟨t', -, rfl⟩ := List.mem_map.1 hw
    exact hrr'

/-- A view that a look-up finds has the names that were looked for. -/
theorem names_of_view? {name hostname : String} {v : View} (hv : m.view? name hostname = some v) :
    v.names = (name, hostname) := by
  obtain ⟨hr, ht, -⟩ := view?_eq_some_iff.1 hv
  have hname : v.repository.name = name := hm.stored name _ hr
  have hhost : v.trigger.hostname = hostname := hm.hostname_of_get? hr hostname _ ht
  rw [View.names, hname, hhost]

/-- The list has the triggers that a look-up finds. -/
theorem mem_views_iff {v : View} :
    v ∈ m.views ↔ m.view? v.repository.name v.trigger.hostname = some v := by
  rw [views, List.mem_flatMap, view?_eq_some_iff]
  constructor
  · rintro ⟨r, hr, hv⟩
    obtain ⟨t, ht, rfl⟩ := List.mem_map.1 hv
    have hrepository : m.repository? r.name = some r :=
      (SortedMap.mem_values_iff hm.stored).1 hr
    have htrigger : r.trigger? t.hostname = some t :=
      (SortedMap.mem_values_iff (hm.hostname_of_get? hrepository)).1 ht
    exact ⟨hrepository, htrigger, rfl⟩
  · rintro ⟨hrepository, htrigger, hglobal⟩
    refine ⟨v.repository, (SortedMap.mem_values_iff hm.stored).2 hrepository, ?_⟩
    rw [List.mem_map, hglobal]
    exact ⟨v.trigger, (SortedMap.mem_values_iff (hm.hostname_of_get? hrepository)).2 htrigger, rfl⟩

/-- The list has each of these triggers once. -/
theorem count_views (v : View) :
    m.views.count v =
      if m.view? v.repository.name v.trigger.hostname = some v then 1 else 0 := by
  have hnodup : m.views.Nodup := hm.views_sorted.imp View.Before.ne
  simp only [hnodup.count, hm.mem_views_iff]

/-! ## Operations on consistent models -/

/-- No operation removes or renames a repository. -/
theorem repository_kept {name : String} {r : Repository} (hr : m.repository? name = some r)
    (op : Operation) : ∃ r', (m.attempt op).repository? name = some r' ∧ r'.name = r.name := by
  have hsome : (m.repository? name).isSome = true := Option.isSome_iff_exists.2 ⟨r, hr⟩
  obtain ⟨r', hr'⟩ := Option.isSome_iff_exists.1 (hm.isSome_repository?_attempt hsome op)
  refine ⟨r', hr', ?_⟩
  rw [(hm.attempt op).stored name r' hr', hm.stored name r hr]

/-- No operation removes or renames a trigger. -/
theorem trigger_kept {name hostname : String} {t : Trigger}
    (ht : m.trigger? name hostname = some t) (op : Operation) :
    ∃ t', (m.attempt op).trigger? name hostname = some t' ∧
      t'.hostname = t.hostname ∧ t'.name = t.name ∧ t'.path = t.path := by
  have hsome : (m.trigger? name hostname).isSome = true := Option.isSome_iff_exists.2 ⟨t, ht⟩
  obtain ⟨t', ht'⟩ := Option.isSome_iff_exists.1 (hm.isSome_trigger?_attempt hsome op)
  have hof := hm.trigger ht
  have hof' := (hm.attempt op).trigger ht'
  refine ⟨t', ht', ?_, ?_, ?_⟩
  · rw [hof'.hostname, hof.hostname]
  · rw [hof'.name_eq, hof.name_eq]
  · rw [hof'.path, hof.path]

end Model.IsConsistent

/-! ## Where models come from -/

/-- A described model is consistent. -/
theorem Declaration.IsAccepted.isConsistent {d : Declaration} {s : ResourceSource}
    (h : d.IsAccepted s) : d.model.IsConsistent := by
  have hnode (name : String) (r : Repository) (hr : d.model.repository? name = some r) :
      ∃ n ∈ d.repositoryNodes, n.name = name ∧ n.repository = r := by
    rw [h.repository?_model] at hr
    obtain ⟨n, hn, rfl⟩ := Option.map_eq_some_iff.1 hr
    exact ⟨n, List.mem_of_find?_eq_some hn, by simpa using List.find?_some hn, rfl⟩
  constructor
  · intro name r hr
    obtain ⟨n, -, hname, rfl⟩ := hnode name r hr
    exact hname
  · intro name r hr
    obtain ⟨n, hn, -, rfl⟩ := hnode name r hr
    refine ⟨h.level.named n hn, fun hostname t ht => ?_⟩
    rw [h.trigger?_repository hn] at ht
    obtain ⟨k, hk, rfl⟩ := Option.map_eq_some_iff.1 ht
    have hhost : k.name = hostname := by simpa using List.find?_some hk
    have hmem : k ∈ n.hostNodes := List.mem_of_find?_eq_some hk
    subst hhost
    exact Trigger.isOf_of_eq ((h.repositories n hn).level.named k hmem) rfl rfl rfl

namespace Model

/-- A run has a trigger if and only if it has created the repository and the trigger. -/
theorem view?_attemptAll_iff (ops : List Operation) (name hostname : String) :
    (∃ v, (Model.new.attemptAll ops).view? name hostname = some v) ↔
      .createRepository name ∈ Model.new.succeeding ops ∧
        .createTrigger name hostname ∈ Model.new.succeeding ops := by
  have hrepository := layerAt?_attemptAll_isSome_iff ops (.repository name)
  have htrigger := layerAt?_attemptAll_isSome_iff ops (.trigger name hostname)
  rw [isSome_layerAt?_repository, Level.isMadeBy_repository] at hrepository
  rw [isSome_layerAt?_trigger, Level.isMadeBy_trigger] at htrigger
  rw [exists_view?_iff, ← hrepository, ← htrigger, iff_and_self, trigger?_eq_bind]
  exact Option.isSome_of_isSome_bind

/-- The invariant of a model with the triggers that are said to be created. -/
structure HasInvariant (m : Model) (created : String → String → Prop) : Prop where
  /-- Entities are stored under their names, which are not blank; the name and the path of a trigger
  are made from those of its repository and its host. -/
  consistent : m.IsConsistent
  found_iff : ∀ name hostname,
    (∃ v, m.view? name hostname = some v ∧ v.names = (name, hostname)) ↔ created name hostname
  names : ∀ name hostname v, m.view? name hostname = some v → v.names = (name, hostname)
  once : ∀ v, m.views.count v =
    if m.view? v.repository.name v.trigger.hostname = some v then 1 else 0
  sorted : m.views.Pairwise View.Before
  repository_kept : ∀ op name r, m.repository? name = some r →
    ∃ r', (m.attempt op).repository? name = some r' ∧ r'.name = r.name
  trigger_kept : ∀ op name hostname t, m.trigger? name hostname = some t →
    ∃ t', (m.attempt op).trigger? name hostname = some t' ∧
      t'.hostname = t.hostname ∧ t'.name = t.name ∧ t'.path = t.path

/-- A consistent model has the invariant for the triggers that it finds. -/
theorem IsConsistent.hasInvariant {m : Model} (hm : m.IsConsistent)
    {created : String → String → Prop}
    (hcreated : ∀ name hostname, (∃ v, m.view? name hostname = some v) ↔ created name hostname) :
    m.HasInvariant created where
  consistent := hm
  found_iff name hostname := by
    rw [← hcreated]
    constructor
    · rintro ⟨v, hv, -⟩
      exact ⟨v, hv⟩
    · rintro ⟨v, hv⟩
      exact ⟨v, hv, hm.names_of_view? hv⟩
  names _ _ _ hv := hm.names_of_view? hv
  once := hm.count_views
  sorted := hm.views_sorted
  repository_kept op _ _ hr := hm.repository_kept hr op
  trigger_kept op _ _ _ ht := hm.trigger_kept ht op

/-- Runs and resolutions give models with the invariant. A run has the triggers of which it has
created the repository and the host; a resolution has those of the host nodes. -/
theorem invariant (ops : List Operation) (c : Compiler) (d : Declaration) :
    (Model.new.attemptAll ops).HasInvariant (fun name hostname =>
      .createRepository name ∈ Model.new.succeeding ops ∧
        .createTrigger name hostname ∈ Model.new.succeeding ops) ∧
    ∀ res, c.resolve d = .ok res → res.model.HasInvariant (fun name hostname =>
      ∃ r ∈ d.repositoryNodes, r.name = name ∧ ∃ h ∈ r.hostNodes, h.name = hostname) := by
  constructor
  · have hconsistent : (Model.new.attemptAll ops).IsConsistent := isConsistent_new.attemptAll ops
    exact hconsistent.hasInvariant (view?_attemptAll_iff ops)
  · intro res hres
    obtain ⟨hd, rfl⟩ := (c.resolve_yields d res).1 hres
    refine hd.isConsistent.hasInvariant fun name hostname => ?_
    simp only [hd.view?_eq_some_iff, Declaration.mem_views]
    constructor
    · rintro ⟨v, ⟨r, hr, h, hh, rfl⟩, hnames⟩
      obtain ⟨hname, hhost⟩ := Prod.mk.inj hnames
      exact ⟨r, hr, hname, h, hh, hhost⟩
    · rintro ⟨r, hr, rfl, h, hh, rfl⟩
      exact ⟨d.view r h, ⟨r, hr, h, hh, rfl⟩, rfl⟩

/-- In the sample run one of the two triggers that it asks for is created, with the name and the path
of its repository and its host, and the sample declaration has a trigger that is named like a
setting. -/
theorem invariant_of_samples :
    (∃ v, (Model.new.attemptAll sampleRun).view? "north" "alpha" = some v ∧
      v.names = ("north", "alpha")) ∧
    (∃ t, (Model.new.attemptAll sampleRun).trigger? "north" "alpha" = some t ∧
      t.name.text = "northAlpha" ∧ t.path = "triggers/north/alpha") ∧
    (¬∃ v, (Model.new.attemptAll sampleRun).view? "south" "alpha" = some v ∧
      v.names = ("south", "alpha")) ∧
    ∃ v, Declaration.sample.model.view? "north" "group" = some v ∧ v.names = ("north", "group") := by
  obtain ⟨hrun, hresolution⟩ := invariant sampleRun Compiler.sample Declaration.sample
  have hsample := hresolution _ Compiler.resolve_sample
  have hfound := (hrun.found_iff "north" "alpha").2 (by decide)
  refine ⟨hfound, ?_, ?_, ?_⟩
  · obtain ⟨v, hv, -⟩ := hfound
    have hof := hrun.consistent.trigger (Model.trigger?_of_view? hv)
    refine ⟨v.trigger, Model.trigger?_of_view? hv, ?_, hof.path⟩
    rw [hof.name_eq]
    decide +kernel
  · rw [hrun.found_iff "south" "alpha"]
    decide
  · exact (hsample.found_iff "north" "group").2 (by decide)

end Model

end TriggerPlan
