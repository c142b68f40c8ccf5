import Mathlib.Data.List.Forall2
import Mathlib.Data.List.Perm.Basic
import TriggerPlan.Proofs.Declaration.Decidable
import TriggerPlan.Proofs.Declaration.LastValue

/-!
# Rearranged declarations

A declaration is rearranged by moving the nodes of its levels about, and by dividing the top level
into other blocks. Only the settings for one key stay in order. This does not affect whether the
declaration is accepted (`Declaration.Rearranged.isAccepted_iff`): a node is judged by itself, and
names are different in any order.
-/

namespace TriggerPlan

/-! ## Rearranged levels -/

/-- The nodes of a level are put in another order, and each may be exchanged for one that `R`
relates it to. The nodes that set one key are the same ones, in the same order. -/
structure LevelRearranged {κ : Type} (name : κ → String) (R : Node → Node → Prop)
    (ns ns' : List Node) : Prop where
  perm : ∃ ms, ns.Perm ms ∧ List.Forall₂ R ms ns'
  order : ∀ k, ns.filter (·.sets (name k)) = ns'.filter (·.sets (name k))

/-- The same node, or two nodes that declare the same entity and whose blocks are related. -/
def Node.RearrangedBy (Blocks : List Node → List Node → Prop) (n n' : Node) : Prop :=
  n = n' ∨
    n.name = n'.name ∧ n.hasValues = false ∧ n'.hasValues = false ∧ Blocks n.children n'.children

/-- The nodes in a host are rearranged. -/
def HostRearranged : List Node → List Node → Prop :=
  LevelRearranged SettingKey.name Eq

/-- The nodes in a repository are rearranged, and so may be those in its hosts. -/
def RepositoryRearranged : List Node → List Node → Prop :=
  LevelRearranged RepositoryKey.name (Node.RearrangedBy HostRearranged)

/-- The nodes of the top level are rearranged and divided into other blocks, and so may be the nodes
in its repositories. If there is a block with a value, there has to be one afterwards. -/
structure Declaration.Rearranged (d d' : Declaration) : Prop where
  blocks : (∀ b ∈ d.blocks, b.hasValues = false) ↔ ∀ b ∈ d'.blocks, b.hasValues = false
  level : LevelRearranged SettingKey.name (Node.RearrangedBy RepositoryRearranged) d.nodes d'.nodes

/-- What the related nodes of a level have in common holds of all nodes before if it does
afterwards. -/
theorem LevelRearranged.forall_iff {κ : Type} {name : κ → String} {R : Node → Node → Prop}
    {ns ns' : List Node} (h : LevelRearranged name R ns ns') {P : Node → Prop}
    (hP : ∀ n n', R n n' → (P n ↔ P n')) : (∀ n ∈ ns, P n) ↔ ∀ n ∈ ns', P n := by
  obtain ⟨ms, hperm, hrel⟩ := h.perm
  -- `ms` has the nodes of `ns`; along `ms` and `ns'` the nodes are related one by one
  have hms : (∀ n ∈ ns, P n) ↔ ∀ n ∈ ms, P n := by
    simp only [hperm.mem_iff]
  rw [hms]
  clear h hms hperm
  induction hrel with
  | nil => exact Iff.rfl
  | cons hn _ ih =>
    rw [List.forall_mem_cons, List.forall_mem_cons]
    exact and_congr (hP _ _ hn) ih

/-- A function that related elements share maps related lists to the same list. -/
theorem map_eq_map_of_forall₂ {α β : Type} {R : α → α → Prop} {f : α → β} {as bs : List α}
    (h : List.Forall₂ R as bs) (hf : ∀ a ∈ as, ∀ b, R a b → f a = f b) : as.map f = bs.map f := by
  induction h with
  | nil => rfl
  | cons hab _ ih =>
    rw [List.forall_mem_cons] at hf
    rw [List.map_cons, List.map_cons, hf.1 _ hab, ih hf.2]

/-! ## Rearranged entities -/

namespace Node.RearrangedBy

variable {Blocks : List Node → List Node → Prop} {n n' : Node}

theorem name_eq (h : n.RearrangedBy Blocks n') : n.name = n'.name := by
  rcases h with rfl | ⟨hname, -⟩
  · rfl
  · exact hname

theorem hasValues_eq (h : n.RearrangedBy Blocks n') : n.hasValues = n'.hasValues := by
  rcases h with rfl | ⟨-, hn, hn', -⟩
  · rfl
  · rw [hn, hn']

/-- Nodes with a value stay as they are. -/
theorem eq_of_hasValues (h : n.RearrangedBy Blocks n') (hn : n.hasValues = true) : n = n' := by
  rcases h with rfl | ⟨-, hvalues, -⟩
  · rfl
  · rw [hn] at hvalues
    exact Bool.noConfusion hvalues

end Node.RearrangedBy

namespace LevelRearranged

variable {κ : Type} {name : κ → String} {Blocks : List Node → List Node → Prop}
  {ns ns' : List Node}

/-- The same for the nodes that declare entities. -/
theorem forall_entityNodes_iff (h : LevelRearranged name (Node.RearrangedBy Blocks) ns ns')
    {P : Node → Prop} (hP : ∀ n n', n.RearrangedBy Blocks n' → (P n ↔ P n')) :
    (∀ n ∈ entityNodes ns, P n) ↔ ∀ n ∈ entityNodes ns', P n := by
  simp only [mem_entityNodes, and_imp]
  refine h.forall_iff (P := fun n => n.hasValues = false → P n) fun n n' hn => ?_
  rw [hn.hasValues_eq, hP n n' hn]

/-- What is read off the nodes that declare entities is permuted, if it is the same for related
nodes. -/
theorem map_entityNodes_perm (h : LevelRearranged name (Node.RearrangedBy Blocks) ns ns')
    {β : Type} {f : Node → β}
    (hf : ∀ n ∈ entityNodes ns, ∀ n', n.RearrangedBy Blocks n' → f n = f n') :
    ((entityNodes ns).map f).Perm ((entityNodes ns').map f) := by
  obtain ⟨ms, hperm, hrel⟩ := h.perm
  have hentities : (entityNodes ns).Perm (entityNodes ms) := hperm.filter _
  have hrelated : List.Forall₂ (Node.RearrangedBy Blocks) (entityNodes ms) (entityNodes ns') := by
    refine List.rel_filter (fun n n' hn => ?_) hrel
    show (!n.hasValues) = true ↔ (!n'.hasValues) = true
    rw [hn.hasValues_eq]
  have heq : (entityNodes ms).map f = (entityNodes ns').map f :=
    map_eq_map_of_forall₂ hrelated fun n hn => hf n (hentities.mem_iff.2 hn)
  rw [← heq]
  exact hentities.map f

/-! ## Acceptance -/

/-- A rearranged level is one as before. -/
theorem isLevel_iff (h : LevelRearranged name (Node.RearrangedBy Blocks) ns ns')
    (IsSetting : Node → Prop) : IsLevel IsSetting ns ↔ IsLevel IsSetting ns' := by
  have hsettings := h.forall_iff (P := fun n => n.hasValues = true → IsSetting n) fun n n' hn => by
    -- a node with a value was not exchanged
    rw [← hn.hasValues_eq]
    exact forall_congr' fun hvalues => by rw [hn.eq_of_hasValues hvalues]
  have hnamed := h.forall_entityNodes_iff (P := fun n => ¬Text.IsBlank n.name)
    fun n n' hn => by rw [hn.name_eq]
  have hdistinct := (h.map_entityNodes_perm (f := Node.name) fun n _ n' hn => hn.name_eq).nodup_iff
  constructor
  · intro hlevel
    exact ⟨hsettings.1 hlevel.settings, hnamed.1 hlevel.named, hdistinct.1 hlevel.distinct⟩
  · intro hlevel
    exact ⟨hsettings.2 hlevel.settings, hnamed.2 hlevel.named, hdistinct.2 hlevel.distinct⟩

end LevelRearranged

namespace Node.RearrangedBy

variable {n n' : Node}

/-- A node with a rearranged block declares a host as before. -/
theorem isHost_iff (h : n.RearrangedBy HostRearranged n') : n.IsHost ↔ n'.IsHost := by
  rcases h with rfl | ⟨-, -, -, hblocks⟩
  · exact Iff.rfl
  · exact hblocks.forall_iff fun m m' hm => by rw [hm]

/-- A node with a rearranged block declares a repository as before. -/
theorem isRepository_iff (h : n.RearrangedBy RepositoryRearranged n') :
    n.IsRepository ↔ n'.IsRepository := by
  rcases h with rfl | ⟨-, -, -, hblocks⟩
  · exact Iff.rfl
  · have hlevel := hblocks.isLevel_iff Node.IsRepositorySetting
    have hhosts := hblocks.forall_entityNodes_iff fun m m' hm => hm.isHost_iff
    constructor
    · intro hn
      exact ⟨hlevel.1 hn.level, hhosts.1 hn.hosts⟩
    · intro hn
      exact ⟨hlevel.2 hn.level, hhosts.2 hn.hosts⟩

/-- A repository has hosts afterwards if it had some before. -/
theorem hostNodes_eq_nil_iff (h : n.RearrangedBy RepositoryRearranged n') :
    n.hostNodes = [] ↔ n'.hostNodes = [] := by
  rcases h with rfl | ⟨-, -, -, hblocks⟩
  · exact Iff.rfl
  · have hnames := hblocks.map_entityNodes_perm (f := Node.name) fun m _ m' hm => hm.name_eq
    have hlength := hnames.length_eq
    rw [List.length_map, List.length_map] at hlength
    rw [← List.length_eq_zero_iff, ← List.length_eq_zero_iff, hostNodes, hostNodes, hlength]

end Node.RearrangedBy

/-- A rearranged declaration is accepted if the declaration is. -/
theorem Declaration.Rearranged.isAccepted_iff {d d' : Declaration} (h : d.Rearranged d')
    {s : ResourceSource} : d.IsAccepted s ↔ d'.IsAccepted s := by
  have hlevel := h.level.isLevel_iff Node.IsSetting
  have hrepositories := h.level.forall_entityNodes_iff fun r r' hr => hr.isRepository_iff
  have hhosts : (∃ r ∈ d.repositoryNodes, r.hostNodes ≠ []) ↔
      ∃ r ∈ d'.repositoryNodes, r.hostNodes ≠ [] := by
    have hnone := h.level.forall_entityNodes_iff fun r r' hr => hr.hostNodes_eq_nil_iff
    have hnot := not_congr hnone
    push Not at hnot
    exact hnot
  constructor
  · intro hd
    exact ⟨h.blocks.1 hd.blocks, hlevel.1 hd.level, hrepositories.1 hd.repositories,
      fun hr => hd.resources (hhosts.2 hr)⟩
  · intro hd
    exact ⟨h.blocks.2 hd.blocks, hlevel.2 hd.level, hrepositories.2 hd.repositories,
      fun hr => hd.resources (hhosts.1 hr)⟩

/-! ## A rearranged sample -/

namespace Declaration

/-- The first host of the sample with its settings in the other order. -/
def rearrangedHost : Node :=
  .ofBlock "alpha"
    [.ofValue "versionHistorySize" (.string "+07"), .ofValue "stagingTask" .null]

/-- The repository of the sample with its hosts before its settings. -/
def rearrangedRepository : Node :=
  .ofBlock "north"
    [rearrangedHost,
      .ofBlock "group" [],
      .ofValue "contextUrl" (.string "https://repo"),
      .ofValue "stagingTask" (.string "stage"),
      .ofValue "versionHistorySize" (.integer 3)]

/-- The sample with its repository before its settings and in another block. -/
def rearrangedSample : Declaration :=
  ⟨[.ofBlock "triggers" [rearrangedRepository],
    .ofBlock "triggers" [],
    .ofBlock "triggers"
      [.ofValue "group" (.string "org.first"), .ofValue "group" (.string "org.second")]]⟩

theorem sampleHost_rearranged : sampleHost.RearrangedBy HostRearranged rearrangedHost := by
  refine Or.inr ⟨rfl, rfl, rfl, ⟨?_, ?_⟩⟩
  · exact ⟨rearrangedHost.children, List.Perm.swap _ _ _, List.forall₂_same.2 fun _ _ => rfl⟩
  · intro k
    cases k with
    | text k => cases k <;> rfl
    | versionHistorySize => rfl

theorem sampleRepository_rearranged :
    sampleRepository.RearrangedBy RepositoryRearranged rearrangedRepository := by
  refine Or.inr ⟨rfl, rfl, rfl, ⟨?_, ?_⟩⟩
  · have hperm : (sampleRepository.children.take 3 ++ sampleRepository.children.drop 3).Perm
        (sampleRepository.children.drop 3 ++ sampleRepository.children.take 3) :=
      List.perm_append_comm
    exact ⟨_, hperm,
      .cons sampleHost_rearranged (List.forall₂_same.2 fun _ _ => Or.inl rfl)⟩
  · intro k
    cases k with
    | contextUrl => rfl
    | repoKey => rfl
    | setting k =>
      cases k with
      | text k => cases k <;> rfl
      | versionHistorySize => rfl

theorem sample_rearranged : sample.Rearranged rearrangedSample := by
  refine ⟨by decide, ⟨?_, ?_⟩⟩
  · have hperm : (sample.nodes.take 2 ++ sample.nodes.drop 2).Perm
        (sample.nodes.drop 2 ++ sample.nodes.take 2) := List.perm_append_comm
    exact ⟨_, hperm,
      .cons sampleRepository_rearranged (List.forall₂_same.2 fun _ _ => Or.inl rfl)⟩
  · intro k
    cases k with
    | text k => cases k <;> rfl
    | versionHistorySize => rfl

end Declaration

end TriggerPlan
