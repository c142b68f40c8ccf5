import TriggerPlan.Proofs.Declaration.Decidable
import TriggerPlan.Proofs.Model.Entities
import TriggerPlan.Proofs.Resolution.Described

/-!
# Success of resolution

Resolution succeeds exactly on the accepted declarations, and then gives the model that they
describe and the pipelines of the described triggers (`Compiler.resolve_yields`). Each level is
handled in two passes; what both of them ask for together is what `IsLevel` says.
-/

namespace TriggerPlan

/-! ## The two passes over a level -/

section Level

variable {κ : Type} {name : κ → String} {Accepts : κ → Value → Prop} {key? : Node → Option κ}
  {ns : List Node}

/-- A node with a key is a setting if it carries a value for this key. -/
theorem isSettingOf_iff_carries (hkey : ∀ n k, key? n = some k ↔ n.sets (name k) = true)
    {n : Node} {k : κ} (hk : key? n = some k) :
    n.IsSettingOf name Accepts ↔ n.Carries (Accepts k) := by
  constructor
  · rintro ⟨k', hname, hcarries⟩
    have hk' : key? n = some k' := (hkey n k').2 (Node.sets_iff.2 ⟨hcarries.hasValues, hname⟩)
    rw [hk, Option.some.injEq] at hk'
    rwa [hk']
  · intro hcarries
    exact ⟨k, (Node.sets_iff.1 ((hkey n k).1 hk)).2, hcarries⟩

/-- Once all nodes of the second pass are known to have no value, they are the entities. -/
theorem filter_isNone_eq_entityNodes (hkey : ∀ n k, key? n = some k ↔ n.sets (name k) = true)
    (h : ∀ n ∈ ns.filter fun n => (key? n).isNone, n.hasValues = false) :
    (ns.filter fun n => (key? n).isNone) = entityNodes ns := by
  refine List.filter_congr fun n hn => ?_
  cases hk : key? n with
  | none =>
    have hvalues := h n (List.mem_filter.2 ⟨hn, by rw [hk, Option.isNone_none]⟩)
    rw [hvalues, Option.isNone_none, Bool.not_false]
  | some k =>
    have hvalues := (Node.sets_iff.1 ((hkey n k).1 hk)).1
    rw [hvalues, Option.isNone_some, Bool.not_true]

/-- The two passes let the nodes with a value pass if they are all settings: those with a key in the
first pass, and the second pass takes none. -/
theorem passes_iff_settings (hkey : ∀ n k, key? n = some k ↔ n.sets (name k) = true) :
    ((∀ n ∈ ns, ∀ k, key? n = some k → n.Carries (Accepts k)) ∧
      ∀ n ∈ ns.filter fun n => (key? n).isNone, n.hasValues = false) ↔
    ∀ n ∈ ns, n.hasValues = true → n.IsSettingOf name Accepts := by
  constructor
  · rintro ⟨hfirst, hsecond⟩ n hn hvalues
    cases hk : key? n with
    | none =>
      have hnone := hsecond n (List.mem_filter.2 ⟨hn, by rw [hk, Option.isNone_none]⟩)
      rw [hnone] at hvalues
      exact Bool.noConfusion hvalues
    | some k => exact (isSettingOf_iff_carries hkey hk).2 (hfirst n hn k hk)
  · intro hsettings
    constructor
    · intro n hn k hk
      have hvalues := (Node.sets_iff.1 ((hkey n k).1 hk)).1
      exact (isSettingOf_iff_carries hkey hk).1 (hsettings n hn hvalues)
    · intro n hn
      obtain ⟨hmem, hnone⟩ := List.mem_filter.1 hn
      by_contra h
      rw [Bool.not_eq_false] at h
      obtain ⟨k, hname, -⟩ := hsettings n hmem h
      rw [(hkey n k).2 (Node.sets_iff.2 ⟨h, hname⟩)] at hnone
      exact Bool.noConfusion hnone

/-- What the two passes ask for. The second one also wants different names that are not blank, and
may ask more of the entities. -/
theorem passes_iff_isLevel (Accepts : κ → Value → Prop) (ns : List Node) (Q : Node → Prop)
    (hkey : ∀ n k, key? n = some k ↔ n.sets (name k) = true) :
    ((∀ n ∈ ns, ∀ k, key? n = some k → n.Carries (Accepts k)) ∧
      (∀ n ∈ ns.filter fun n => (key? n).isNone,
        n.hasValues = false ∧ ¬Text.IsBlank n.name ∧ Q n) ∧
      ((ns.filter fun n => (key? n).isNone).map (·.name)).Nodup) ↔
    IsLevel (Node.IsSettingOf name Accepts) ns ∧ ∀ n ∈ entityNodes ns, Q n := by
  constructor
  · rintro ⟨hfirst, hsecond, hdistinct⟩
    -- the second pass takes the nodes without a key, which it then finds to have no value
    have hvalues := fun n hn => (hsecond n hn).1
    have heq := filter_isNone_eq_entityNodes hkey hvalues
    rw [heq] at hsecond hdistinct
    exact ⟨⟨(passes_iff_settings hkey).1 ⟨hfirst, hvalues⟩, fun n hn => (hsecond n hn).2.1,
      hdistinct⟩, fun n hn => (hsecond n hn).2.2⟩
  · rintro ⟨hlevel, hQ⟩
    obtain ⟨hfirst, hvalues⟩ := (passes_iff_settings hkey).2 hlevel.settings
    rw [filter_isNone_eq_entityNodes hkey hvalues]
    exact ⟨hfirst, fun n hn => ⟨(mem_entityNodes.1 hn).2, hlevel.named n hn, hQ n hn⟩,
      hlevel.distinct⟩

end Level

/-! ## Hosts -/

/-- A repository with other triggers. -/
def Repository.withTriggers (r : Repository) (triggers : SortedMap String Trigger) : Repository :=
  { r with triggers := triggers }

namespace Compiler

/-- The trigger that has just been put into a repository is found there, so it is compiled. -/
theorem compileHost_yields (c : Compiler) (defaults : Layer) (r : Repository) (t : Trigger) :
    Yields (c.compileHost defaults (r.putTrigger t) t.hostname) (c.missingResource? = none)
      (some (c.pipeline ⟨defaults, r, t⟩)) := by
  unfold compileHost
  rw [r.trigger?_putTrigger_self t]
  exact (c.compile_yields ⟨defaults, r.putTrigger t, t⟩).map some

theorem resolveHost_yields (c : Compiler) (defaults : Layer) (r : Repository) (n : Node) :
    Yields (c.resolveHost defaults r n)
      ((n.hasValues = false ∧ ¬Text.IsBlank n.name ∧ n.IsHost ∧ c.missingResource? = none) ∧
        ¬r.triggers.contains n.name = true)
      (r.putTrigger (n.trigger r.name),
        some (c.pipeline ⟨defaults, r, n.trigger r.name⟩)) := by
  have hlookup := c.compileHost_yields defaults (r.putTrigger (.new r.name n.name))
    (n.trigger r.name)
  refine (Yields.refuse rfl ((r.createTrigger_yields n.name).bind
    ((Layer.applyHostNodes_yields _ _ n.children).bind (hlookup.bind_pure _)))).congr ?_ fun _ => ?_
  · rw [Bool.not_eq_true]
    unfold Node.IsHost
    tauto
  · -- the trigger was put there before its settings were known, and is put there again
    have hput := r.putTrigger_putTrigger (.new r.name n.name) (n.trigger r.name) rfl
    exact Prod.ext hput rfl

/-- The repository and the pipelines after a host node. -/
def addHost (c : Compiler) (defaults : Layer) (done : Repository × List Pipeline) (n : Node) :
    Repository × List Pipeline :=
  (done.1.putTrigger (n.trigger done.1.name),
    done.2 ++ [c.pipeline ⟨defaults, done.1, n.trigger done.1.name⟩])

/-- Host nodes add triggers to a repository and change nothing else of it. The pipelines are those
of the final repository, since a pipeline does not depend on the other triggers. -/
theorem foldl_addHost (c : Compiler) (defaults : Layer) (ns : List Node) (r : Repository)
    (ps : List Pipeline) :
    ns.foldl (c.addHost defaults) (r, ps) =
      (r.withTriggers (ns.foldl (fun m n => m.insert n.name (n.trigger r.name)) r.triggers),
        ps ++ ns.map fun n => c.pipeline ⟨defaults, r, n.trigger r.name⟩) := by
  -- each step hands on another repository, with the same name and settings
  induction ns generalizing r ps with
  | nil =>
    rw [List.foldl_nil, List.foldl_nil, List.map_nil, List.append_nil]
    rfl
  | cons n ns ih =>
    rw [List.foldl_cons, addHost, ih, List.map_cons, List.append_assoc]
    rfl

theorem resolveHosts_yields (c : Compiler) (defaults : Layer) (r : Repository) (ns : List Node) :
    Yields (c.resolveHosts defaults r ns)
      ((∀ n ∈ ns.filter (·.repositorySetting?.isNone), n.hasValues = false ∧
          ¬Text.IsBlank n.name ∧ n.IsHost ∧ c.missingResource? = none) ∧
        ((ns.filter (·.repositorySetting?.isNone)).map (·.name)).Nodup ∧
        ∀ n ∈ ns.filter (·.repositorySetting?.isNone), ¬r.triggers.contains n.name = true)
      ((ns.filter (·.repositorySetting?.isNone)).foldl (c.addHost defaults) (r, [])) := by
  refine Yields.foldlM_fresh (f := c.addHost defaults)
    (fun done k => done.1.triggers.contains k = true) ?_ ?_ _ (r, [])
  · rintro ⟨r, ps⟩ n
    exact (c.resolveHost_yields defaults r n).bind_pure _
  · intro done n k
    exact SortedMap.contains_insert ..

/-! ## Repositories -/

/-- The pipelines of the hosts in a node, for a global layer. -/
def hostPipelines (c : Compiler) (defaults : Layer) (n : Node) : List Pipeline :=
  n.hostNodes.map fun h => c.pipeline ⟨defaults, n.repository, h.trigger n.name⟩

/-- The settings in a node make the repository that the node describes, but for its triggers. -/
theorem putAll_new (n : Node) :
    (Repository.new n.name).putAll n.children = n.repository.withTriggers .empty := by
  rw [Repository.putAll_eq, Node.repository, Repository.withTriggers]
  congr 1 <;> cases lastValue? _ n.children <;> rfl

/-- The host nodes make the repository that the node describes out of its settings. -/
theorem foldl_addHost_putAll_new (c : Compiler) (defaults : Layer) (n : Node) :
    n.hostNodes.foldl (c.addHost defaults) ((Repository.new n.name).putAll n.children, []) =
      (n.repository, c.hostPipelines defaults n) := by
  have htriggers : n.hostNodes.foldl (fun m h => m.insert h.name (h.trigger n.name)) .empty =
      n.repository.triggers := by
    rw [Node.repository, SortedMap.ofList, List.foldl_map]
  rw [putAll_new, foldl_addHost, List.nil_append]
  exact congrArg (fun m => (n.repository.withTriggers m, c.hostPipelines defaults n)) htriggers

theorem resolveRepository_yields (c : Compiler) (defaults : Layer) (n : Node) :
    Yields (c.resolveRepository defaults n)
      (n.IsRepository ∧ (n.hostNodes ≠ [] → c.missingResource? = none))
      (n.repository, c.hostPipelines defaults n) := by
  have hpasses := passes_iff_isLevel RepositoryKey.Accepts n.children
    (fun h => h.IsHost ∧ c.missingResource? = none)
    fun n k => n.repositorySetting?_eq_some_iff (k := k)
  rw [← Node.isRepositorySetting_eq] at hpasses
  -- a new repository has no trigger, so only the hosts have to differ from each other
  have hfree (h : Node) :
      ¬((Repository.new n.name).putAll n.children).triggers.contains h.name = true := by
    rw [putAll_new]
    exact Bool.false_ne_true
  refine (((Repository.new n.name).applySettings_yields n.children).bind
    (c.resolveHosts_yields defaults _ n.children)).congr ?_ ?_
  · constructor
    · rintro ⟨hfirst, hsecond, hdistinct, -⟩
      obtain ⟨hlevel, hhosts⟩ := hpasses.1 ⟨hfirst, hsecond, hdistinct⟩
      refine ⟨⟨hlevel, fun h hh => (hhosts h hh).1⟩, fun hne => ?_⟩
      obtain ⟨h, hh⟩ := List.exists_mem_of_ne_nil _ hne
      exact (hhosts h hh).2
    · rintro ⟨⟨hlevel, hhosts⟩, hresources⟩
      obtain ⟨hfirst, hsecond, hdistinct⟩ := hpasses.2
        ⟨hlevel, fun h hh => ⟨hhosts h hh, hresources (List.ne_nil_of_mem hh)⟩⟩
      exact ⟨hfirst, hsecond, hdistinct, fun h _ => hfree h⟩
  · rintro ⟨-, hsecond, -, -⟩
    have hnodes : n.children.filter (·.repositorySetting?.isNone) = n.hostNodes :=
      filter_isNone_eq_entityNodes (fun n k => n.repositorySetting?_eq_some_iff (k := k))
        fun h hh => (hsecond h hh).1
    rw [hnodes, foldl_addHost_putAll_new]

/-! ## Declarations -/

/-- The resolution after a repository node. -/
def addedRepository (c : Compiler) (defaults : Layer) (done : Resolution) (n : Node) :
    Resolution :=
  ⟨done.model.putRepository n.repository, done.pipelines ++ c.hostPipelines defaults n⟩

theorem addRepository_yields (c : Compiler) (defaults : Layer) (done : Resolution) (n : Node) :
    Yields (c.addRepository defaults done n)
      ((n.hasValues = false ∧ ¬Text.IsBlank n.name ∧ n.IsRepository ∧
          (n.hostNodes ≠ [] → c.missingResource? = none)) ∧
        ¬done.model.repositories.contains n.name = true)
      (c.addedRepository defaults done n) := by
  refine (Yields.refuse rfl ((done.model.checkRepositoryName_yields n.name).bind
    ((c.resolveRepository_yields defaults n).bind_pure _))).congr ?_ fun _ => rfl
  rw [Bool.not_eq_true]
  tauto

/-- Repository nodes add repositories to the model and their pipelines to the list. -/
theorem foldl_addedRepository (c : Compiler) (defaults : Layer) (ns : List Node)
    (done : Resolution) :
    ns.foldl (c.addedRepository defaults) done =
      ⟨{ done.model with
          repositories := ns.foldl (fun m n => m.insert n.name n.repository)
            done.model.repositories },
        done.pipelines ++ ns.flatMap (c.hostPipelines defaults)⟩ := by
  induction ns generalizing done with
  | nil => simp
  | cons n ns ih =>
    rw [List.foldl_cons, ih, addedRepository, List.flatMap_cons, List.append_assoc]
    rfl

/-- What the repository nodes ask for, and what they give. -/
theorem foldlM_addRepository_yields (c : Compiler) (ns : List Node) (l : Layer) :
    Yields (ns.foldlM (c.addRepository l) ⟨⟨l, .empty⟩, []⟩)
      ((∀ n ∈ ns, n.hasValues = false ∧ ¬Text.IsBlank n.name ∧ n.IsRepository ∧
          (n.hostNodes ≠ [] → c.missingResource? = none)) ∧
        (ns.map (·.name)).Nodup)
      ⟨⟨l, .ofList (ns.map fun n => (n.name, n.repository))⟩, ns.flatMap (c.hostPipelines l)⟩ := by
  have hfold := Yields.foldlM_fresh (f := c.addedRepository l)
    (fun done k => done.model.repositories.contains k = true)
    (fun done n => c.addRepository_yields l done n)
    (fun done n k => SortedMap.contains_insert ..) ns ⟨⟨l, .empty⟩, []⟩
  refine hfold.congr ?_ fun _ => ?_
  · constructor
    · rintro ⟨hnodes, hdistinct, -⟩
      exact ⟨hnodes, hdistinct⟩
    · rintro ⟨hnodes, hdistinct⟩
      exact ⟨hnodes, hdistinct, fun _ _ => Bool.false_ne_true⟩
  · rw [foldl_addedRepository, List.nil_append, SortedMap.ofList, List.foldl_map]

/-- The pipelines of the views that a declaration describes, repository by repository. -/
theorem map_pipeline_views (c : Compiler) (d : Declaration) :
    d.views.map c.pipeline = d.repositoryNodes.flatMap (c.hostPipelines d.settings) := by
  rw [Declaration.views, List.map_flatMap]
  simp only [List.map_map]
  rfl

/-- Each repository node with a host needs the resources, so all of them do if one is missing. -/
theorem hostNodes_resources_iff {c : Compiler} {ns : List Node} :
    (∀ n ∈ ns, n.hostNodes ≠ [] → c.missingResource? = none) ↔
      ((∃ n ∈ ns, n.hostNodes ≠ []) →
        ∀ name ∈ neededResources, c.resources.contains name = true) := by
  rw [← missingResource?_eq_none_iff]
  constructor
  · rintro h ⟨n, hn, hhosts⟩
    exact h n hn hhosts
  · intro h n hn hhosts
    exact h ⟨n, hn, hhosts⟩

/-- Resolution succeeds exactly on the accepted declarations, and gives what they describe. -/
theorem resolve_yields (c : Compiler) (d : Declaration) :
    Yields (c.resolve d) (d.IsAccepted c.resources) ⟨d.model, d.views.map c.pipeline⟩ := by
  have hkey (n : Node) (k : SettingKey) := n.setting?_eq_some_iff (k := k)
  have hpasses := passes_iff_isLevel SettingKey.Accepts d.nodes
    (fun n => n.IsRepository ∧ (n.hostNodes ≠ [] → c.missingResource? = none)) hkey
  rw [← Node.isSetting_eq] at hpasses
  unfold resolve
  cases hblock : d.blocks.find? (·.hasValues) with
  | some block =>
    refine Yields.error _ _ fun h => ?_
    have hvalues := h.blocks block (List.mem_of_find?_eq_some hblock)
    rw [List.find?_some hblock] at hvalues
    exact Bool.noConfusion hvalues
  | none =>
    -- no block has a value, so only the nodes in the blocks count from here on
    have hblocks : ∀ b ∈ d.blocks, b.hasValues = false :=
      fun b hb => Bool.eq_false_iff.2 (List.find?_eq_none.1 hblock b hb)
    refine ((Layer.applySettings_yields _ rootPath d.nodes).bind
      (c.foldlM_addRepository_yields _ d.settings)).congr ?_ ?_
    · refine hpasses.trans ?_
      constructor
      · rintro ⟨hlevel, hnodes⟩
        exact ⟨hblocks, hlevel, fun r hr => (hnodes r hr).1,
          hostNodes_resources_iff.1 fun r hr => (hnodes r hr).2⟩
      · rintro ⟨-, hlevel, hrepositories, hresources⟩
        have hnodes := hostNodes_resources_iff.2 hresources
        exact ⟨hlevel, fun r hr => ⟨hrepositories r hr, hnodes r hr⟩⟩
    · rintro ⟨-, hsecond, -⟩
      have hnodes : d.nodes.filter (·.setting?.isNone) = d.repositoryNodes :=
        filter_isNone_eq_entityNodes hkey fun n hn => (hsecond n hn).1
      rw [map_pipeline_views]
      exact congrArg (fun ns : List Node =>
        (⟨⟨d.settings, .ofList (ns.map fun n => (n.name, n.repository))⟩,
          ns.flatMap (c.hostPipelines d.settings)⟩ : Resolution)) hnodes

/-- The declarations that resolution accepts are those of the language. -/
theorem resolve_succeeds_iff (c : Compiler) (d : Declaration) :
    (∃ res, c.resolve d = .ok res) ↔ d.IsAccepted c.resources :=
  (c.resolve_yields d).exists_iff

/-- A compiler that finds every resource. -/
def sample : Compiler :=
  ⟨{}, Declaration.emptyFiles⟩

/-- The sample is accepted. -/
theorem resolve_sample :
    sample.resolve .sample =
      .ok ⟨Declaration.sample.model, Declaration.sample.views.map sample.pipeline⟩ :=
  (sample.resolve_yields .sample _).2 ⟨by decide +kernel, rfl⟩

end Compiler

end TriggerPlan
