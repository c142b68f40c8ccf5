import TriggerPlan.Proofs.Resolution.SettingFailure

/-!
# Errors of resolution

What the errors of resolution say about the declaration, said of its tree alone (`Error.IsTrueOf`),
and that it is true. The program goes through a level node by node, and when it comes to an error the
nodes before have been resolved; so it is known which names are taken by then, and that no trigger
has come before if resources are missing.
-/

namespace TriggerPlan

/-! ## Truth of errors -/

namespace Declaration

/-- The paths of the triggers that a declaration describes, in the order of their nodes. -/
def triggerPaths (d : Declaration) : List String :=
  d.repositoryNodes.flatMap fun r => r.hostNodes.map fun h => "triggers/" ++ r.name ++ "/" ++ h.name

end Declaration

/-- No declaration with the node at this place can be resolved. -/
def Place.Rejects (p : Place) (n : Node) : Prop :=
  ∀ (c : Compiler) (d : Declaration) (path : String), d.HasNode p path n →
    ∀ res, c.resolve d ≠ .ok res

/-- The node is what an error about the field means: it has the name of the field, or the field is
its name, which is blank. -/
def Node.IsField (n : Node) (field : String) : Prop :=
  n.name = field ∨ field = "name" ∧ Text.IsBlank n.name

/-- What an error says holds of the declaration and the resources: entities of one name stand side by
side, there is a node that no declaration can have at its place, or the first trigger is left without
the first of the resources that are missing. Files and steps play no part in resolution. -/
def Error.IsTrueOf (d : Declaration) (s : ResourceSource) : Error → Prop
  | duplicateEntity parent .repository name =>
    parent = "triggers" ∧ 2 ≤ d.repositoryNodes.countP (·.name = name)
  | duplicateEntity parent .host name =>
    ∃ r ∈ d.repositoryNodes, r.name = parent ∧ 2 ≤ r.hostNodes.countP (·.name = name)
  | invalidConfiguration path field _ _ =>
    ∃ p n, d.HasNode p path n ∧ n.IsField field ∧ p.Rejects n
  | resourceMissing path resource =>
    d.triggerPaths.head? = some path ∧
      neededResources.find? (fun r => !s.contains r) = some resource
  | copyFailed .. => False
  | stepFailed .. => False

variable {d : Declaration} {s : ResourceSource} {c : Compiler} {r n : Node} {e : Error}
  {pre post : List Node}

theorem Place.rejects_of_not_accepts {p : Place} (h : ¬p.Accepts n) : p.Rejects n := by
  intro c d path hn res hres
  obtain ⟨hd, -⟩ := (c.resolve_yields d res).1 hres
  exact h (hd.accepts hn)

/-- An error about a node that is not acceptable at its place is true. -/
theorem Error.IsAbout.isTrueOf {p : Place} {path field : String} (he : e.IsAbout path field)
    (hn : d.HasNode p path n) (hfield : n.IsField field) (hnot : ¬p.Accepts n) :
    e.IsTrueOf d s := by
  obtain ⟨value, reason, rfl⟩ := he
  exact ⟨p, n, hn, hfield, Place.rejects_of_not_accepts hnot⟩

/-! ## Entities of a level -/

/-- The nodes without a key up to one without a value are entities, if those before it have no value
either. -/
theorem entityNodes_eq_append {κ : Type} {name : κ → String} {key? : Node → Option κ}
    {ns : List Node} (hkey : ∀ n k, key? n = some k ↔ n.sets (name k) = true)
    (hns : (ns.filter fun n => (key? n).isNone) = pre ++ n :: post)
    (hpre : ∀ m ∈ pre, m.hasValues = false) (hn : n.hasValues = false) :
    entityNodes ns = pre ++ n :: entityNodes post := by
  -- a node without a value has no key, so the entities can be taken from the nodes without a key
  have hfilter : entityNodes (ns.filter fun n => (key? n).isNone) = entityNodes ns := by
    rw [entityNodes, List.filter_filter]
    refine List.filter_congr fun m _ => ?_
    cases hk : key? m with
    | none => rw [Option.isNone_none, Bool.and_true]
    | some k =>
      rw [(Node.sets_iff.1 ((hkey m k).1 hk)).1]
      rfl
  have hprefix : pre.filter (fun m => !m.hasValues) = pre :=
    List.filter_eq_self.2 fun m hm => by rw [hpre m hm, Bool.not_false]
  rw [← hfilter, hns, entityNodes, List.filter_append, hprefix,
    List.filter_cons_of_pos (by rw [hn, Bool.not_false])]
  rfl

/-- A node and one of this name before it make two. -/
theorem two_le_countP_of_mem {ns : List Node} (h : n.name ∈ pre.map (·.name)) :
    2 ≤ (pre ++ n :: ns).countP (·.name = n.name) := by
  obtain ⟨m, hm, hname⟩ := List.mem_map.1 h
  have hbefore : 0 < pre.countP (·.name = n.name) :=
    List.countP_pos_iff.2 ⟨m, hm, decide_eq_true hname⟩
  rw [List.countP_append, List.countP_cons_of_pos (by simp)]
  omega

/-- The first trigger is that of the first host in the first repository that has one. -/
theorem Declaration.head?_triggerPaths (hnodes : d.repositoryNodes = pre ++ r :: post)
    (hpre : ∀ m ∈ pre, m.hostNodes = []) {ns : List Node} (hhosts : r.hostNodes = n :: ns) :
    d.triggerPaths.head? = some ("triggers/" ++ r.name ++ "/" ++ n.name) := by
  have hnone :
      (pre.flatMap fun r => r.hostNodes.map fun h => "triggers/" ++ r.name ++ "/" ++ h.name) = [] :=
    List.flatMap_eq_nil_iff.2 fun m hm => by rw [hpre m hm, List.map_nil]
  rw [triggerPaths, hnodes, List.flatMap_append, hnone, List.nil_append, List.flatMap_cons, hhosts,
    List.map_cons, List.cons_append, List.head?_cons]

/-! ## Hosts -/

namespace Compiler

/-- A trigger is not compiled if a resource is missing. -/
theorem compile_reports (c : Compiler) (v : View) :
    Reports (c.compile v) fun e =>
      ∃ resource, c.missingResource? = some resource ∧
        e = .resourceMissing v.trigger.path resource := by
  unfold compile
  cases h : c.missingResource? with
  | some resource => exact Reports.error ⟨resource, rfl, rfl⟩
  | none => exact Reports.ok _

/-- Nor is the trigger that has just been put into a repository. -/
theorem compileHost_reports (c : Compiler) (defaults : Layer) (r : Repository) (t : Trigger) :
    Reports (c.compileHost defaults (r.putTrigger t) t.hostname) fun e =>
      ∃ resource, c.missingResource? = some resource ∧ e = .resourceMissing t.path resource := by
  unfold compileHost
  rw [r.trigger?_putTrigger_self t]
  exact (c.compile_reports _).bind fun p _ => Reports.ok (some p)

/-- The errors about a host node are true, if it is known where the node stands: that the names taken
are those of nodes beside it, and that there is no trigger before it when resources are missing. -/
theorem resolveHost_reports (c : Compiler) (defaults : Layer) {repository : Repository}
    (hname : repository.name = r.name) (hr : r ∈ d.repositoryNodes) (hn : n ∈ r.children)
    (hkey : n.repositorySetting? = none)
    (htaken : n.hasValues = false → repository.triggers.contains n.name = true →
      2 ≤ r.hostNodes.countP (·.name = n.name))
    (hfirst : n.hasValues = false → c.missingResource? ≠ none →
      d.triggerPaths.head? = some ("triggers/" ++ r.name ++ "/" ++ n.name)) :
    Reports (c.resolveHost defaults repository n) (·.IsTrueOf d c.resources) := by
  have hpath : repository.path = "triggers/" ++ r.name := by
    rw [Repository.path, hname, repositoryPath_eq]
  have htrigger : (Trigger.new repository.name n.name).path =
      "triggers/" ++ r.name ++ "/" ++ n.name := by
    rw [hname]
    exact triggerPath_eq r.name n.name
  refine Reports.refuse (fun hvalues => Reports.error ?_) fun hvalues => ?_
  · have habout : (n.notABlock repository.path).IsAbout ("triggers/" ++ r.name) n.name := by
      rw [hpath]
      exact Error.isAbout ..
    refine habout.isTrueOf (.repository hr hn) (.inl rfl) ?_
    rw [Place.Accepts, Node.isRepositorySetting_eq]
    exact not_fits_of_key?_eq_none (fun _ _ => Node.repositorySetting?_eq_some_iff) hkey hvalues
  · rw [Bool.not_eq_true] at hvalues
    have hh : n ∈ r.hostNodes := mem_entityNodes.2 ⟨hn, hvalues⟩
    refine ((repository.createTrigger_reports n.name).mono ?_).bind fun created _ =>
      ((Layer.applyHostNodes_reports _ _ n.children).mono ?_).bind fun settings _ =>
      ((c.compileHost_reports defaults created
        { Trigger.new repository.name n.name with settings := settings }).mono ?_).bind
          fun p _ => Reports.ok _
    · rintro e (⟨habout, hblank⟩ | ⟨hcontains, rfl⟩)
      · rw [hpath] at habout
        exact habout.isTrueOf (.repository hr hn) (.inr ⟨rfl, hblank⟩)
          (Node.not_fits_of_isBlank hvalues hblank)
      · exact ⟨r, hr, hname.symm, htaken hvalues hcontains⟩
    · rintro e ⟨m, hm, habout, hnot⟩
      rw [htrigger] at habout
      exact habout.isTrueOf (.host hr hh hm) (.inl rfl) hnot
    · rintro e ⟨resource, hmissing, rfl⟩
      have hne : c.missingResource? ≠ none := by
        rw [hmissing]
        exact Option.some_ne_none resource
      refine ⟨?_, hmissing⟩
      rw [hfirst hvalues hne, ← htrigger]

/-- Hosts take their names, and leave everything else of a repository as it is. -/
theorem contains_foldl_addHost (c : Compiler) (defaults : Layer) (ns : List Node)
    (r : Repository) (ps : List Pipeline) (k : String) :
    (ns.foldl (c.addHost defaults) (r, ps)).1.triggers.contains k = true ↔
      k ∈ ns.map (·.name) ∨ r.triggers.contains k = true := by
  have hcontains := SortedMap.contains_foldl_insert (ns.map fun n => (n.name, n.trigger r.name))
    r.triggers k
  rw [List.foldl_map, List.map_map] at hcontains
  rw [foldl_addHost]
  exact hcontains

/-- What is known after nodes without a key have been resolved as hosts. -/
theorem of_resolveHosts_eq_ok {defaults : Layer} {repository : Repository} {hs : List Node}
    (hkeys : hs.filter (·.repositorySetting?.isNone) = hs) {done : Repository × List Pipeline}
    (hdone : c.resolveHosts defaults repository hs = .ok done) :
    (∀ m ∈ hs, m.hasValues = false ∧ c.missingResource? = none) ∧
      done.1.name = repository.name ∧
      ∀ k, done.1.triggers.contains k = true →
        k ∈ hs.map (·.name) ∨ repository.triggers.contains k = true := by
  obtain ⟨⟨hresolved, -⟩, rfl⟩ := (c.resolveHosts_yields defaults repository hs done).1 hdone
  rw [hkeys] at hresolved ⊢
  refine ⟨fun m hm => ⟨(hresolved m hm).1, (hresolved m hm).2.2.2⟩, ?_, fun k hk => ?_⟩
  · rw [foldl_addHost]
    rfl
  · exact (c.contains_foldl_addHost defaults hs repository [] k).1 hk

/-- The errors about the hosts in a repository node are true, if no repository before it has a host
when resources are missing. -/
theorem resolveHosts_reports (c : Compiler) (defaults : Layer)
    (hnodes : d.repositoryNodes = pre ++ r :: post)
    (hpre : ∀ m ∈ pre, m.hostNodes ≠ [] → c.missingResource? = none) :
    Reports (c.resolveHosts defaults ((Repository.new r.name).putAll r.children) r.children)
      (·.IsTrueOf d c.resources) := by
  refine Reports.foldlM fun hs n hs' done hns hdone => ?_
  have hr : r ∈ d.repositoryNodes := hnodes ▸ List.mem_append_cons_self
  have hmem : ∀ m ∈ hs ++ n :: hs', m ∈ r.children ∧ m.repositorySetting?.isNone = true :=
    fun m hm => List.mem_filter.1 (hns ▸ hm)
  obtain ⟨hn, hkey⟩ := hmem n List.mem_append_cons_self
  -- the hosts before the node have been resolved, which makes them entities
  have hkeys : hs.filter (·.repositorySetting?.isNone) = hs :=
    List.filter_eq_self.2 fun m hm => (hmem m (List.mem_append_left _ hm)).2
  have hhs : c.resolveHosts defaults ((Repository.new r.name).putAll r.children) hs = .ok done := by
    rw [resolveHosts, hkeys]
    exact hdone
  obtain ⟨hresolved, hname, hnames⟩ := of_resolveHosts_eq_ok hkeys hhs
  rw [putAll_new] at hname hnames
  have hhosts (hvalues : n.hasValues = false) : r.hostNodes = hs ++ n :: entityNodes hs' :=
    entityNodes_eq_append (fun _ _ => Node.repositorySetting?_eq_some_iff) hns
      (fun m hm => (hresolved m hm).1) hvalues
  refine (c.resolveHost_reports defaults hname hr hn (Option.isNone_iff_eq_none.1 hkey) ?_ ?_).bind
    fun _ _ => Reports.ok _
  · intro hvalues htaken
    rw [hhosts hvalues]
    exact two_le_countP_of_mem ((hnames n.name htaken).resolve_right Bool.false_ne_true)
  · intro hvalues hmissing
    have hnone : hs = [] :=
      List.eq_nil_iff_forall_not_mem.2 fun m hm => hmissing (hresolved m hm).2
    have hhead : r.hostNodes = n :: entityNodes hs' := by
      rw [hhosts hvalues, hnone, List.nil_append]
    exact Declaration.head?_triggerPaths hnodes
      (fun m hm => by_contra fun hne => hmissing (hpre m hm hne)) hhead

/-! ## Repositories -/

/-- The errors inside a repository node are true, if no repository before it has a host when
resources are missing. -/
theorem resolveRepository_reports (c : Compiler) (defaults : Layer)
    (hnodes : d.repositoryNodes = pre ++ r :: post)
    (hpre : ∀ m ∈ pre, m.hostNodes ≠ [] → c.missingResource? = none) :
    Reports (c.resolveRepository defaults r) (·.IsTrueOf d c.resources) := by
  have hr : r ∈ d.repositoryNodes := hnodes ▸ List.mem_append_cons_self
  refine (((Repository.new r.name).applySettings_reports r.children).mono ?_).bind
    fun repository hrepository => ?_
  · rintro e ⟨n, hn, habout, hnot⟩
    exact habout.isTrueOf (.repository hr hn) (.inl rfl) hnot
  · obtain ⟨-, rfl⟩ :=
      ((Repository.new r.name).applySettings_yields r.children repository).1 hrepository
    exact c.resolveHosts_reports defaults hnodes hpre

end Compiler

/-- A node with a value among the repositories is reported under its name. -/
theorem Node.isAbout_misplaced (n : Node) : n.misplaced.IsAbout "triggers" n.name := by
  unfold misplaced
  split <;> exact Error.isAbout ..

namespace Compiler

/-- The errors about a repository node are true, if it is known where the node stands: that the names
taken are those of the repositories before it, and that none of these has a host when resources are
missing. -/
theorem addRepository_reports (c : Compiler) (defaults : Layer) (done : Resolution)
    (hn : n ∈ d.nodes)
    (hkey : n.setting? = none)
    (hnodes : n.hasValues = false → d.repositoryNodes = pre ++ n :: post)
    (htaken : done.model.repositories.contains n.name = true → n.name ∈ pre.map (·.name))
    (hpre : ∀ m ∈ pre, m.hostNodes ≠ [] → c.missingResource? = none) :
    Reports (c.addRepository defaults done n) (·.IsTrueOf d c.resources) := by
  refine Reports.refuse (fun hvalues => Reports.error ?_) fun hvalues => ?_
  · refine n.isAbout_misplaced.isTrueOf (.root hn) (.inl rfl) ?_
    rw [Place.Accepts, Node.isSetting_eq]
    exact not_fits_of_key?_eq_none (fun _ _ => Node.setting?_eq_some_iff) hkey hvalues
  · rw [Bool.not_eq_true] at hvalues
    refine ((done.model.checkRepositoryName_reports n.name).mono ?_).bind fun _ _ =>
      (c.resolveRepository_reports defaults (hnodes hvalues) hpre).bind fun _ _ => Reports.ok _
    rintro e (⟨habout, hblank⟩ | ⟨hcontains, rfl⟩)
    · exact habout.isTrueOf (.root hn) (.inr ⟨rfl, hblank⟩)
        (Node.not_fits_of_isBlank hvalues hblank)
    · refine ⟨rfl, ?_⟩
      rw [hnodes hvalues]
      exact two_le_countP_of_mem (htaken hcontains)

/-! ## Declarations -/

/-- Every error of resolution is true. -/
theorem resolve_reports (c : Compiler) (d : Declaration) :
    Reports (c.resolve d) (·.IsTrueOf d c.resources) := by
  unfold resolve
  cases hblock : d.blocks.find? (·.hasValues) with
  | some block =>
    have hvalues := List.find?_some hblock
    refine Reports.error ((Error.isAbout ..).isTrueOf
      (.block (List.mem_of_find?_eq_some hblock)) (.inl rfl) fun hnone => ?_)
    rw [hnone] at hvalues
    exact Bool.false_ne_true hvalues
  | none =>
    refine ((Layer.applySettings_reports _ rootPath d.nodes).mono ?_).bind fun settings _ =>
      Reports.foldlM fun pre n post done hns hdone => ?_
    · rintro e ⟨n, hn, habout, hnot⟩
      exact habout.isTrueOf (.root hn) (.inl rfl) hnot
    · have hmem : n ∈ d.nodes ∧ n.setting?.isNone = true :=
        List.mem_filter.1 (hns ▸ List.mem_append_cons_self)
      -- the repositories before the node have been resolved
      obtain ⟨⟨hresolved, -⟩, rfl⟩ := (c.foldlM_addRepository_yields pre settings done).1 hdone
      refine c.addRepository_reports settings _ hmem.1 (Option.isNone_iff_eq_none.1 hmem.2)
        (entityNodes_eq_append (fun _ _ => Node.setting?_eq_some_iff) hns
          fun m hm => (hresolved m hm).1) (fun htaken => ?_)
        fun m hm => (hresolved m hm).2.2.2
      rw [SortedMap.contains_ofList, List.map_map] at htaken
      exact htaken

end Compiler

/-- If resolution fails, it says why: the error is about names, nodes or resources, and what it says
is true. -/
theorem Compiler.error_isTrueOf {c : Compiler} {d : Declaration} {e : Error}
    (he : c.resolve d = .error e) : e.IsTrueOf d c.resources :=
  c.resolve_reports d e he

/-- A repository with two hosts of one name. -/
def Declaration.repeatedHost : Declaration :=
  ⟨[.ofBlock "triggers" [.ofBlock "r" [.ofBlock "x" [], .ofBlock "x" []]]]⟩

/-- A host with a setting that takes no such value. -/
def Declaration.negativeSize : Declaration :=
  ⟨[.ofBlock "triggers"
    [.ofBlock "r" [.ofBlock "x" [.ofValue "versionHistorySize" (.integer (-1))]]]]⟩

/-- A repository with a setting that takes no such value. -/
def Declaration.numericKey : Declaration :=
  ⟨[.ofBlock "triggers" [.ofBlock "r" [.ofValue "repoKey" (.integer 5)]]]⟩

/-- A block with a value beside its nodes. -/
def Declaration.blockWithValue : Declaration :=
  ⟨[⟨"triggers", [.boolean true], [], some []⟩]⟩

/-- A compiler that finds no resource. -/
def Compiler.bare : Compiler :=
  ⟨{}, ⟨fun _ => none⟩⟩

/-- A repeated host, a bad value on each level and a missing resource are reported as what they
are. -/
theorem Compiler.error_isTrueOf_samples :
    (sample.resolve .repeatedHost = .error (.duplicateEntity "r" .host "x") ∧
      (Error.duplicateEntity "r" .host "x").IsTrueOf .repeatedHost sample.resources) ∧
    (∃ e, sample.resolve .negativeSize = .error e ∧
      e.IsAbout "triggers/r/x" "versionHistorySize" ∧
      e.IsTrueOf .negativeSize sample.resources) ∧
    (∃ e, sample.resolve .numericKey = .error e ∧ e.IsAbout "triggers/r" "repoKey" ∧
      e.IsTrueOf .numericKey sample.resources) ∧
    (∃ e, sample.resolve .blockWithValue = .error e ∧ e.IsAbout "triggers" "triggers" ∧
      e.IsTrueOf .blockWithValue sample.resources) ∧
    bare.resolve .sample = .error (.resourceMissing "triggers/north/alpha" "gradlew") ∧
      (Error.resourceMissing "triggers/north/alpha" "gradlew").IsTrueOf .sample bare.resources :=
  ⟨⟨rfl, error_isTrueOf rfl⟩, ⟨_, rfl, Error.isAbout .., error_isTrueOf rfl⟩,
    ⟨_, rfl, Error.isAbout .., error_isTrueOf rfl⟩,
    ⟨_, rfl, Error.isAbout .., error_isTrueOf rfl⟩, rfl, error_isTrueOf rfl⟩

end TriggerPlan
