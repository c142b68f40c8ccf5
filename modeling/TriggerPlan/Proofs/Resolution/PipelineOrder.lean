import TriggerPlan.CommandLine.Run
import TriggerPlan.Proofs.Model.Invariant
import TriggerPlan.Proofs.Resolution.Rearrangement

/-!
# The order of pipelines

A trigger is compiled where its node stands, so the pipelines come in the order of the declaration.
The triggers of the model are sorted by name instead. The two orders are the same exactly if the
declaration names its triggers in sorted order, and what is shown of a declaration stays the same
under a rearrangement exactly as long as its triggers stay in order
(`Compiler.pipelines_follow_nodes`).
-/

namespace TriggerPlan

/-! ## Names in order -/

/-- The names of repository and host of the triggers that a declaration declares, in the order of
their nodes. -/
def Declaration.triggerNames (d : Declaration) : List (String × String) :=
  d.repositoryNodes.flatMap fun r => r.hostNodes.map fun h => (r.name, h.name)

/-- The order of triggers, said of their names: first the bytes of the repositories decide, then
those of the hosts. -/
def NamesBefore (a b : String × String) : Prop :=
  Text.utf8 a.1 < Text.utf8 b.1 ∨ a.1 = b.1 ∧ Text.utf8 a.2 < Text.utf8 b.2

instance : DecidableRel NamesBefore := fun a b =>
  inferInstanceAs
    (Decidable (Text.utf8 a.1 < Text.utf8 b.1 ∨ a.1 = b.1 ∧ Text.utf8 a.2 < Text.utf8 b.2))

/-- Of two triggers only one can come before the other. -/
theorem NamesBefore.asymm {a b : String × String} (h : NamesBefore a b) : ¬NamesBefore b a := by
  rintro (hba | ⟨heq, hba⟩)
  · rcases h with hab | ⟨heq, -⟩
    · exact List.lt_asymm hab hba
    · rw [heq] at hba
      exact List.lt_irrefl _ hba
  · rcases h with hab | ⟨-, hab⟩
    · rw [heq] at hab
      exact List.lt_irrefl _ hab
    · exact List.lt_asymm hab hba

/-- Two orders of the same elements are equal if the keys come in one order, as long as the keys
tell the elements apart. -/
theorem eq_of_perm_of_map_eq {α κ : Type} {key : α → κ} {as bs : List α} (h : as.Perm bs)
    (hnodup : (as.map key).Nodup) (hkeys : as.map key = bs.map key) : as = bs := by
  have hinj {a b : α} (ha : a ∈ as) (hb : b ∈ bs) (hab : key a = key b) : a = b :=
    List.inj_on_of_nodup_map hnodup ha (h.mem_iff.2 hb) hab
  clear h hnodup
  induction as generalizing bs with
  | nil => exact (List.map_eq_nil_iff.1 hkeys.symm).symm
  | cons a as ih =>
    cases bs with
    | nil => exact absurd hkeys (by simp)
    | cons b bs =>
      rw [List.map_cons, List.map_cons, List.cons.injEq] at hkeys
      have hhead : a = b := hinj List.mem_cons_self List.mem_cons_self hkeys.1
      have htail : as = bs := ih hkeys.2 fun ha hb =>
        hinj (List.mem_cons_of_mem _ ha) (List.mem_cons_of_mem _ hb)
      rw [hhead, htail]

/-! ## The triggers of a declaration -/

namespace Declaration

/-- The described views come in the order of the nodes. -/
theorem map_names_views (d : Declaration) : d.views.map View.names = d.triggerNames := by
  rw [views, List.map_flatMap]
  simp only [List.map_map]
  rfl

namespace IsAccepted

variable {d d' : Declaration} {s : ResourceSource}

/-- The order of the nodes is that of the model exactly if it is sorted. -/
theorem triggerNames_eq_iff (h : d.IsAccepted s) :
    d.triggerNames = d.model.views.map View.names ↔ d.triggerNames.Pairwise NamesBefore := by
  have hperm : (d.model.views.map View.names).Perm d.triggerNames := by
    rw [← d.map_names_views]
    exact h.views_perm.map _
  have hsorted : (d.model.views.map View.names).Pairwise NamesBefore :=
    List.pairwise_map.2 h.isConsistent.views_sorted
  constructor
  · intro heq
    rw [heq]
    exact hsorted
  · intro hnodes
    -- a sorted list has no other sorted order
    exact hperm.symm.eq_of_pairwise (fun _ _ _ _ hab hba => absurd hba hab.asymm) hnodes hsorted

/-- Rearranging a declaration keeps the order of the pipelines exactly if it keeps that of the
triggers. -/
theorem map_pipeline_eq_iff (h : d.IsAccepted s) (hd : d.Rearranged d') (c : Compiler) :
    d.views.map c.pipeline = d'.views.map c.pipeline ↔ d.triggerNames = d'.triggerNames := by
  rw [← d.map_names_views, ← d'.map_names_views]
  constructor
  · intro heq
    have hnames := congrArg (List.map Pipeline.names) heq
    rwa [List.map_map, List.map_map] at hnames
  · intro hnames
    rw [eq_of_perm_of_map_eq (hd.views_perm h) h.nodup_names hnames]

end IsAccepted

end Declaration

/-! ## Pipelines in order -/

namespace Compiler

open CommandLine (Command)

/-- The pipelines come in the order in which the declaration names their triggers. This is the order
of the model exactly if the names are sorted. If a rearrangement keeps the triggers in order, the
pipelines stay the same and so does what is shown of them; otherwise the pipelines change. -/
theorem pipelines_follow_nodes {c : Compiler} {d : Declaration} {res : Resolution}
    (hres : c.resolve d = .ok res) :
    res.pipelines.map Pipeline.names = d.triggerNames ∧
    (res.pipelines.map Pipeline.names = res.model.views.map View.names ↔
      d.triggerNames.Pairwise NamesBefore) ∧
    ∀ d' res', d.Rearranged d' → c.resolve d' = .ok res' →
      (res.pipelines = res'.pipelines ↔ d.triggerNames = d'.triggerNames) ∧
      (d.triggerNames = d'.triggerNames → ∀ asJson,
        (Command.plan asJson).respond c res = (Command.plan asJson).respond c res') := by
  obtain ⟨hd, rfl⟩ := (c.resolve_yields d res).1 hres
  have hnames : (d.views.map c.pipeline).map Pipeline.names = d.triggerNames := by
    rw [List.map_map]
    exact d.map_names_views
  refine ⟨hnames, ?_, ?_⟩
  · rw [hnames]
    exact hd.triggerNames_eq_iff
  · intro d' res' hrearranged hres'
    obtain ⟨-, rfl⟩ := (c.resolve_yields d' res').1 hres'
    have hiff := hd.map_pipeline_eq_iff hrearranged c
    refine ⟨hiff, fun horder asJson => ?_⟩
    cases asJson <;> simp only [Command.respond, hiff.2 horder]

/-- The sample names its triggers in sorted order. Its rearrangement does so too, and is shown as the
sample is. -/
theorem pipelines_of_sample_in_order :
    (Declaration.sample.views.map sample.pipeline).map Pipeline.names =
      Declaration.sample.model.views.map View.names ∧
    ∃ res, sample.resolve .rearrangedSample = .ok res ∧
      (Command.plan false).respond sample
          ⟨Declaration.sample.model, Declaration.sample.views.map sample.pipeline⟩ =
        (Command.plan false).respond sample res := by
  have hres : sample.resolve .rearrangedSample = .ok
      ⟨Declaration.rearrangedSample.model,
        Declaration.rearrangedSample.views.map sample.pipeline⟩ :=
    (sample.resolve_yields .rearrangedSample _).2 ⟨by decide +kernel, rfl⟩
  obtain ⟨-, hsorted, hrearranged⟩ := pipelines_follow_nodes resolve_sample
  refine ⟨hsorted.2 (by decide +kernel), _, hres, ?_⟩
  exact (hrearranged _ _ Declaration.sample_rearranged hres).2 (by decide +kernel) false

end Compiler

/-! ## Triggers out of order -/

namespace Declaration

/-- A repository with its hosts out of order. -/
def unsortedRepository : Node :=
  .ofBlock "south" [.ofBlock "y" [], .ofBlock "x" []]

/-- The same repository with its hosts in order. -/
def sortedRepository : Node :=
  .ofBlock "south" [.ofBlock "x" [], .ofBlock "y" []]

/-- Two repositories, neither themselves nor the hosts of the first of them in order. -/
def unsorted : Declaration :=
  ⟨[.ofBlock "triggers" [unsortedRepository, .ofBlock "north" [.ofBlock "z" []]]]⟩

/-- The same repositories and hosts in order. -/
def sorted : Declaration :=
  ⟨[.ofBlock "triggers" [.ofBlock "north" [.ofBlock "z" []], sortedRepository]]⟩

theorem unsortedRepository_rearranged :
    unsortedRepository.RearrangedBy RepositoryRearranged sortedRepository := by
  -- there are no settings to be kept in order
  refine Or.inr ⟨rfl, rfl, rfl, ⟨?_, fun k => rfl⟩⟩
  exact ⟨sortedRepository.children, List.Perm.swap _ _ _, List.forall₂_same.2 fun _ _ => .inl rfl⟩

/-- The two declarations differ in nothing but the order of their entities. -/
theorem unsorted_rearranged : unsorted.Rearranged sorted := by
  refine ⟨by decide, ⟨?_, fun k => rfl⟩⟩
  exact ⟨_, List.Perm.swap _ _ _, .cons (.inl rfl) (.cons unsortedRepository_rearranged .nil)⟩

end Declaration

/-- The pipelines are out of order where the nodes are, though the model is sorted; and the same
triggers in order are shown by another text. -/
theorem Compiler.pipelines_out_of_order :
    Declaration.unsorted.Rearranged .sorted ∧
    ∃ res res', sample.resolve .unsorted = .ok res ∧ sample.resolve .sorted = .ok res' ∧
      res.pipelines.map Pipeline.names = [("south", "y"), ("south", "x"), ("north", "z")] ∧
      res.model.views.map View.names = [("north", "z"), ("south", "x"), ("south", "y")] ∧
      ((CommandLine.Command.plan false).respond sample res).outcome.output ≠
        ((CommandLine.Command.plan false).respond sample res').outcome.output := by
  refine ⟨Declaration.unsorted_rearranged, _, _,
    (sample.resolve_yields .unsorted _).2 ⟨by decide +kernel, rfl⟩,
    (sample.resolve_yields .sorted _).2 ⟨by decide +kernel, rfl⟩, ?_⟩
  decide +kernel

end TriggerPlan
