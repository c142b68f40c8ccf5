import Mathlib.Data.List.Perm.Basic
import Mathlib.Data.Prod.Basic
import TriggerPlan.Proofs.Resolution.Success

/-!
# The triggers of an accepted declaration

The views that an accepted declaration describes are told apart by the names of repository and host,
so each of them has a pipeline of its own (`IsAccepted.filter_pipelines`). They are also the views
of the described model: the same list up to its order (`IsAccepted.views_perm`), and the same result
of a look-up (`IsAccepted.view?_eq_some_iff`).
-/

namespace TriggerPlan

/-- Among elements with different keys, the key of an element selects this element alone. -/
theorem filter_eq_singleton {α κ : Type} [DecidableEq κ] {key : α → κ} {as : List α}
    (h : (as.map key).Nodup) {a : α} (ha : a ∈ as) :
    as.filter (fun b => key b = key a) = [a] := by
  have hnodup : as.Nodup := List.Nodup.of_map key h
  rw [← List.perm_singleton, List.perm_ext_iff_of_nodup (hnodup.filter _) (List.nodup_singleton a)]
  intro b
  rw [List.mem_filter, List.mem_singleton, decide_eq_true_eq]
  constructor
  · rintro ⟨hb, hkey⟩
    exact List.inj_on_of_nodup_map h hb ha hkey
  · rintro rfl
    exact ⟨ha, rfl⟩

/-- The names of the repository and the host of a view. -/
def View.names (v : View) : String × String :=
  (v.repository.name, v.trigger.hostname)

/-- The names of the repository and the host of a pipeline. -/
def Pipeline.names (p : Pipeline) : String × String :=
  (p.repository, p.hostname)

namespace Declaration

theorem mem_views {d : Declaration} {v : View} :
    v ∈ d.views ↔ ∃ r ∈ d.repositoryNodes, ∃ h ∈ r.hostNodes, d.view r h = v := by
  simp [views]

namespace IsAccepted

variable {d : Declaration} {s : ResourceSource}

/-! ## Different names -/

/-- No two of the described triggers have the same repository and the same host. -/
theorem nodup_names (h : d.IsAccepted s) : (d.views.map View.names).Nodup := by
  have hnames : d.views.map View.names =
      d.repositoryNodes.flatMap fun r => (r.hostNodes.map (·.name)).map (Prod.mk r.name) := by
    rw [views, List.map_flatMap]
    simp only [List.map_map]
    rfl
  rw [hnames, List.nodup_flatMap]
  constructor
  · intro r hr
    exact (h.repositories r hr).level.distinct.map (Prod.mk_right_injective r.name)
  · -- hosts of different repositories differ in the first component
    refine (List.pairwise_map.1 h.level.distinct).imp fun hne x hx hx' => ?_
    obtain ⟨_, _, rfl⟩ := List.mem_map.1 hx
    obtain ⟨_, _, heq⟩ := List.mem_map.1 hx'
    exact hne (congrArg Prod.fst heq).symm

/-- Each described trigger has one pipeline, which its names select. -/
theorem filter_pipelines {c : Compiler} (h : d.IsAccepted c.resources) {v : View}
    (hv : v ∈ d.views) :
    (d.views.map c.pipeline).filter
      (fun p => p.repository = v.repository.name ∧ p.hostname = v.trigger.hostname) =
        [c.pipeline v] := by
  have hselected : d.views.filter ((fun p : Pipeline =>
      p.repository = v.repository.name ∧ p.hostname = v.trigger.hostname) ∘ c.pipeline) = [v] := by
    rw [← filter_eq_singleton h.nodup_names hv]
    refine List.filter_congr fun w _ => decide_eq_decide.2 ?_
    rw [View.names, View.names, Prod.mk.injEq]
    rfl
  rw [List.filter_map, hselected, List.map_singleton]

/-- If there is a described trigger, the resources are available. -/
theorem missingResource?_eq_none {c : Compiler} (h : d.IsAccepted c.resources) {v : View}
    (hv : v ∈ d.views) : c.missingResource? = none := by
  obtain ⟨r, hr, n, hn, -⟩ := mem_views.1 hv
  exact Compiler.missingResource?_eq_none_iff.2 (h.resources ⟨r, hr, List.ne_nil_of_mem hn⟩)

/-! ## Views of the described model -/

theorem nodup_repositories (h : d.IsAccepted s) :
    ((d.repositoryNodes.map fun r => (r.name, r.repository)).map (·.1)).Nodup := by
  rw [List.map_map]
  exact h.level.distinct

theorem nodup_triggers (h : d.IsAccepted s) {r : Node} (hr : r ∈ d.repositoryNodes) :
    ((r.hostNodes.map fun n => (n.name, n.trigger r.name)).map (·.1)).Nodup := by
  rw [List.map_map]
  exact (h.repositories r hr).level.distinct

/-- The views of the model are those of the declaration, in another order. -/
theorem views_perm (h : d.IsAccepted s) : d.model.views.Perm d.views := by
  have hrepositories := SortedMap.values_ofList_perm h.nodup_repositories
  rw [List.map_map] at hrepositories
  -- first the order of the repositories, then within each repository that of its hosts
  refine (hrepositories.flatMap_right _).trans ?_
  rw [List.flatMap_map]
  refine List.Perm.flatMap_left d.repositoryNodes fun r hr => ?_
  have htriggers := SortedMap.values_ofList_perm (h.nodup_triggers hr)
  rw [List.map_map] at htriggers
  exact (htriggers.map _).trans (List.Perm.of_eq (List.map_map ..))

/-- A look-up in the model finds the repository that the node of this name describes. -/
theorem repository?_model (h : d.IsAccepted s) (name : String) :
    d.model.repository? name =
      (d.repositoryNodes.find? fun r => r.name = name).map Node.repository :=
  SortedMap.get?_ofList_map h.level.distinct name

/-- A look-up in a described repository finds the trigger that the host node of this name
describes. -/
theorem trigger?_repository (h : d.IsAccepted s) {r : Node} (hr : r ∈ d.repositoryNodes)
    (hostname : String) :
    r.repository.trigger? hostname =
      (r.hostNodes.find? fun n => n.name = hostname).map (·.trigger r.name) :=
  SortedMap.get?_ofList_map (h.repositories r hr).level.distinct hostname

/-- A look-up in the model finds the view with these names. -/
theorem view?_eq_some_iff (h : d.IsAccepted s) {repository hostname : String} {v : View} :
    d.model.view? repository hostname = some v ↔
      v ∈ d.views ∧ v.names = (repository, hostname) := by
  have hrepository (r' : Repository) : d.model.repository? repository = some r' ↔
      ∃ r ∈ d.repositoryNodes, r.name = repository ∧ r.repository = r' := by
    rw [Model.repository?, model, SortedMap.get?_ofList_eq_some_iff h.nodup_repositories]
    simp [Prod.ext_iff]
  have htrigger (r : Node) (hr : r ∈ d.repositoryNodes) (t : Trigger) :
      r.repository.trigger? hostname = some t ↔
        ∃ n ∈ r.hostNodes, n.name = hostname ∧ n.trigger r.name = t := by
    rw [Repository.trigger?, Node.repository,
      SortedMap.get?_ofList_eq_some_iff (h.nodup_triggers hr)]
    simp [Prod.ext_iff]
  simp only [Model.view?, Option.bind_eq_bind, Option.bind_eq_some_iff, mem_views]
  constructor
  · rintro ⟨r', hr', t, ht, hv⟩
    obtain ⟨r, hr, rfl, rfl⟩ := (hrepository r').1 hr'
    obtain ⟨n, hn, rfl, rfl⟩ := (htrigger r hr t).1 ht
    obtain rfl := Option.some.inj hv
    exact ⟨⟨r, hr, n, hn, rfl⟩, rfl⟩
  · rintro ⟨⟨r, hr, n, hn, rfl⟩, hnames⟩
    obtain ⟨hname, hhost⟩ := Prod.ext_iff.1 hnames
    exact ⟨r.repository, (hrepository _).2 ⟨r, hr, hname, rfl⟩, n.trigger r.name,
      (htrigger r hr _).2 ⟨n, hn, hhost, rfl⟩, rfl⟩

end IsAccepted

end Declaration

end TriggerPlan
