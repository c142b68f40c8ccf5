import TriggerPlan.Proofs.Model.Invariant
import TriggerPlan.Proofs.Model.Reachable

/-!
# The models that declarations express

Every consistent model is described by a declaration (`Model.IsConsistent.model_declaration`): one
block, in which each level first sets all of its attributes, with `null` for those that it does not
have, and then declares its entities in the order of their names. So the models that resolution
gives are the consistent ones (`Model.exists_resolve_iff_isConsistent`), which are those that runs
of operations leave.
-/

namespace TriggerPlan

/-! ## Nodes with one value and nodes with a block -/

namespace Node

@[simp] theorem hasValues_ofValue (name : String) (v : Value) :
    (ofValue name v).hasValues = true := rfl

@[simp] theorem hasValues_ofBlock (name : String) (ns : List Node) :
    (ofBlock name ns).hasValues = false := rfl

@[simp] theorem children_ofBlock (name : String) (ns : List Node) :
    (ofBlock name ns).children = ns := rfl

theorem sets_ofValue {name name' : String} {v : Value} :
    (ofValue name' v).sets name = true ↔ name' = name := by
  rw [sets_iff, hasValues_ofValue]
  exact and_iff_right rfl

/-- A node with one value carries it. -/
theorem carries_ofValue {name : String} {v : Value} {P : Value → Prop} (h : P v) :
    (ofValue name v).Carries P :=
  ⟨v, rfl, rfl, rfl, h⟩

end Node

/-! ## Levels that set every key and then declare entities -/

/-- The nodes that set some keys to their values. -/
def settingNodes {κ : Type} (name : κ → String) (value : κ → Value) (keys : List κ) : List Node :=
  keys.map fun k => .ofValue (name k) (value k)

section Level

variable {κ : Type} {name : κ → String} {value : κ → Value} {keys : List κ} {es : List Node}

theorem mem_settingNodes {n : Node} :
    n ∈ settingNodes name value keys ↔ ∃ k ∈ keys, Node.ofValue (name k) (value k) = n :=
  List.mem_map

/-- The settings of a level are told apart from the entities behind them. -/
theorem entityNodes_settingNodes_append (hes : ∀ n ∈ es, n.hasValues = false) :
    entityNodes (settingNodes name value keys ++ es) = es := by
  rw [entityNodes, List.filter_append]
  have hsettings : (settingNodes name value keys).filter (fun n => !n.hasValues) = [] := by
    rw [List.filter_eq_nil_iff]
    intro n hn
    obtain ⟨k, -, rfl⟩ := mem_settingNodes.1 hn
    simp
  have hentities : es.filter (fun n => !n.hasValues) = es := by
    rw [List.filter_eq_self]
    intro n hn
    rw [hes n hn, Bool.not_false]
  rw [hsettings, hentities, List.nil_append]

/-- Entities set nothing. -/
theorem lastValue?_append_entities (hes : ∀ n ∈ es, n.hasValues = false) (s : String)
    (ns : List Node) : lastValue? s (ns ++ es) = lastValue? s ns := by
  have hnone : es.filter (·.sets s) = [] := by
    rw [List.filter_eq_nil_iff]
    intro n hn hsets
    have hvalues := (Node.sets_iff.1 hsets).1
    rw [hes n hn] at hvalues
    exact Bool.noConfusion hvalues
  rw [lastValue?, lastValue?, List.filter_append, hnone, List.append_nil]

/-- The value for a key is the one of its setting, since different keys have different names. -/
theorem lastValue?_settingNodes (hname : Function.Injective name) {k : κ} (hk : k ∈ keys) :
    lastValue? (name k) (settingNodes name value keys) = some (value k) := by
  induction keys using List.reverseRecOn with
  | nil => exact absurd hk List.not_mem_nil
  | append_singleton keys k' ih =>
    rw [settingNodes, List.map_append, List.map_singleton, lastValue?_concat]
    by_cases h : k' = k
    · subst h
      rw [if_pos (Node.sets_ofValue.2 rfl)]
      rfl
    · have hkeys : k ∈ keys := by
        rcases List.mem_append.1 hk with hmem | hmem
        · exact hmem
        · exact absurd (List.mem_singleton.1 hmem).symm h
      rw [if_neg fun hsets => h (hname (Node.sets_ofValue.1 hsets))]
      exact ih hkeys

/-- Such a level is well-formed if the names of the entities are different and not blank. -/
theorem isLevel_settingNodes_append {Accepts : κ → Value → Prop}
    (haccepts : ∀ k, Accepts k (value k)) (hes : ∀ n ∈ es, n.hasValues = false)
    (hnamed : ∀ n ∈ es, ¬Text.IsBlank n.name) (hdistinct : (es.map (·.name)).Nodup) :
    IsLevel (Node.IsSettingOf name Accepts) (settingNodes name value keys ++ es) := by
  constructor
  · intro n hn hvalues
    rcases List.mem_append.1 hn with hn | hn
    · obtain ⟨k, -, rfl⟩ := mem_settingNodes.1 hn
      exact ⟨k, rfl, Node.carries_ofValue (haccepts k)⟩
    · rw [hes n hn] at hvalues
      exact Bool.noConfusion hvalues
  · rwa [entityNodes_settingNodes_append hes]
  · rwa [entityNodes_settingNodes_append hes]

end Level

/-! ## Layers -/

/-- The nodes that give every attribute what the layer has. -/
def Layer.nodes (l : Layer) : List Node :=
  settingNodes SettingKey.name l.value SettingKey.all

/-- A level on which the last values are those of a layer makes this layer. -/
theorem Layer.putAll_eq_of_lastValue? {l : Layer} {ns : List Node}
    (h : ∀ key : SettingKey, lastValue? key.name ns = some (l.value key)) (l' : Layer) :
    l'.putAll ns = l := by
  refine ext_text (fun k => ?_) ?_
  · have hk : lastValue? k.name ns = some (l.value (.text k)) := h (.text k)
    rw [text_putAll, hk]
    exact Value.text?_ofText (l.text k)
  · rw [versionHistorySize_putAll, h]
    exact Value.size?_ofSize l.versionHistorySize

theorem Layer.lastValue?_nodes (l : Layer) (key : SettingKey) :
    lastValue? key.name l.nodes = some (l.value key) :=
  lastValue?_settingNodes (fun _ _ => SettingKey.name_injective) key.mem_all

/-! ## Triggers -/

/-- The node that declares a trigger in its repository. -/
def Trigger.node (t : Trigger) : Node :=
  .ofBlock t.hostname t.settings.nodes

theorem Trigger.isHost_node (t : Trigger) : t.node.IsHost := by
  intro n hn
  obtain ⟨key, -, rfl⟩ := mem_settingNodes.1 hn
  exact Node.isSetting_iff.2 ⟨key, rfl, Node.carries_ofValue (t.settings.accepts_value key)⟩

/-- The node of a trigger describes it. -/
theorem Trigger.IsOf.trigger_node {t : Trigger} {repository host : String}
    (h : t.IsOf repository host) : t.node.trigger repository = t := by
  have hsettings : Layer.empty.putAll t.settings.nodes = t.settings :=
    Layer.putAll_eq_of_lastValue? t.settings.lastValue?_nodes .empty
  rw [Node.trigger, node, Node.children_ofBlock, hsettings]
  have hhost : t.hostname = host := h.hostname
  rw [← hhost] at h
  exact h.eq_new.symm

/-! ## Repositories -/

namespace Repository

/-- The value that gives a key of repositories what the repository has. -/
def value (r : Repository) : RepositoryKey → Value
  | .contextUrl => .ofText r.contextUrl
  | .repoKey => .ofText r.repoKey
  | .setting key => r.settings.value key

theorem accepts_value (r : Repository) (key : RepositoryKey) : key.Accepts (r.value key) := by
  cases key with
  | contextUrl => exact Value.isText_ofText _
  | repoKey => exact Value.isText_ofText _
  | setting key => exact r.settings.accepts_value key

/-- The nodes that declare the triggers of a repository. -/
def triggerNodes (r : Repository) : List Node :=
  r.triggers.values.map Trigger.node

/-- The node that declares a repository with its triggers. -/
def node (r : Repository) : Node :=
  .ofBlock r.name (settingNodes RepositoryKey.name r.value RepositoryKey.all ++ r.triggerNodes)

theorem hasValues_of_mem_triggerNodes {r : Repository} (n : Node) (hn : n ∈ r.triggerNodes) :
    n.hasValues = false := by
  obtain ⟨t, -, rfl⟩ := List.mem_map.1 hn
  rfl

@[simp] theorem hostNodes_node (r : Repository) : r.node.hostNodes = r.triggerNodes :=
  entityNodes_settingNodes_append hasValues_of_mem_triggerNodes

theorem lastValue?_node (r : Repository) (key : RepositoryKey) :
    lastValue? key.name r.node.children = some (r.value key) := by
  rw [node, Node.children_ofBlock, lastValue?_append_entities hasValues_of_mem_triggerNodes]
  exact lastValue?_settingNodes RepositoryKey.name_injective key.mem_all

namespace IsConsistent

variable {r : Repository} (h : r.IsConsistent)
include h

/-- The triggers of a consistent repository carry the keys under which they are stored. -/
theorem hostname_of_get? (hostname : String) (t : Trigger)
    (ht : r.triggers.get? hostname = some t) : t.hostname = hostname :=
  (h.triggers hostname t ht).hostname

theorem isOf_of_mem_values {t : Trigger} (ht : t ∈ r.triggers.values) :
    t.IsOf r.name t.hostname :=
  h.triggers t.hostname t ((SortedMap.mem_values_iff h.hostname_of_get?).1 ht)

/-- The node of a repository describes it. -/
theorem repository_node : r.node.repository = r := by
  have hurl : lastValue? RepositoryKey.contextUrl.name r.node.children =
      some (.ofText r.contextUrl) := r.lastValue?_node .contextUrl
  have hkey : lastValue? RepositoryKey.repoKey.name r.node.children = some (.ofText r.repoKey) :=
    r.lastValue?_node .repoKey
  have hsettings : Layer.empty.putAll r.node.children = r.settings :=
    Layer.putAll_eq_of_lastValue? (fun key => r.lastValue?_node (.setting key)) .empty
  have htriggers : SortedMap.ofList
      (r.node.hostNodes.map fun n => (n.name, n.trigger r.node.name)) = r.triggers := by
    rw [hostNodes_node, triggerNodes, List.map_map]
    have hentries (t : Trigger) (ht : t ∈ r.triggers.values) :
        (t.node.name, t.node.trigger r.name) = (t.hostname, t) :=
      Prod.ext rfl (h.isOf_of_mem_values ht).trigger_node
    exact (congrArg _ (List.map_congr_left hentries)).trans
      (SortedMap.ofList_values h.hostname_of_get?)
  rw [Node.repository, hurl, hkey, hsettings, htriggers]
  simp [node, Node.ofBlock]

/-- The node of a consistent repository declares a repository. -/
theorem isRepository_node : r.node.IsRepository := by
  have hdistinct : (r.triggerNodes.map (·.name)).Nodup := by
    rw [triggerNodes, List.map_map]
    exact SortedMap.nodup_map_values h.hostname_of_get?
  constructor
  · rw [Node.isRepositorySetting_eq]
    refine isLevel_settingNodes_append r.accepts_value hasValues_of_mem_triggerNodes ?_ hdistinct
    intro n hn
    obtain ⟨t, ht, rfl⟩ := List.mem_map.1 hn
    exact (h.isOf_of_mem_values ht).named
  · intro n hn
    rw [hostNodes_node] at hn
    obtain ⟨t, -, rfl⟩ := List.mem_map.1 hn
    exact t.isHost_node

end IsConsistent

end Repository

/-! ## Models -/

namespace Model

/-- The nodes that declare the repositories of a model. -/
def repositoryNodes (m : Model) : List Node :=
  m.repositories.values.map Repository.node

/-- The declaration that describes a model. -/
def declaration (m : Model) : Declaration :=
  ⟨[.ofBlock rootPath (m.settings.nodes ++ m.repositoryNodes)]⟩

theorem nodes_declaration (m : Model) :
    m.declaration.nodes = m.settings.nodes ++ m.repositoryNodes := by
  rw [Declaration.nodes, declaration, List.flatMap_singleton, Node.children_ofBlock]

theorem hasValues_of_mem_repositoryNodes {m : Model} (n : Node) (hn : n ∈ m.repositoryNodes) :
    n.hasValues = false := by
  obtain ⟨r, -, rfl⟩ := List.mem_map.1 hn
  rfl

@[simp] theorem repositoryNodes_declaration (m : Model) :
    m.declaration.repositoryNodes = m.repositoryNodes := by
  rw [Declaration.repositoryNodes, nodes_declaration]
  exact entityNodes_settingNodes_append hasValues_of_mem_repositoryNodes

/-- The declaration sets every global attribute, so that none of the built-in ones is left. -/
theorem settings_declaration (m : Model) : m.declaration.settings = m.settings := by
  rw [Declaration.settings, nodes_declaration]
  refine Layer.putAll_eq_of_lastValue? (fun key => ?_) Layer.globalDefaults
  rw [lastValue?_append_entities hasValues_of_mem_repositoryNodes]
  exact m.settings.lastValue?_nodes key

namespace IsConsistent

variable {m : Model} (hm : m.IsConsistent)
include hm

theorem isConsistent_of_mem_values {r : Repository} (hr : r ∈ m.repositories.values) :
    r.IsConsistent :=
  hm.repositories r.name r ((SortedMap.mem_values_iff hm.stored).1 hr)

/-- The declaration of a consistent model describes it. -/
theorem model_declaration : m.declaration.model = m := by
  have hentries (r : Repository) (hr : r ∈ m.repositories.values) :
      (r.node.name, r.node.repository) = (r.name, r) :=
    Prod.ext rfl (hm.isConsistent_of_mem_values hr).repository_node
  have hrepositories : SortedMap.ofList
      (m.repositoryNodes.map fun n => (n.name, n.repository)) = m.repositories := by
    rw [repositoryNodes, List.map_map]
    exact (congrArg _ (List.map_congr_left hentries)).trans (SortedMap.ofList_values hm.stored)
  rw [Declaration.model, repositoryNodes_declaration, settings_declaration, hrepositories]

/-- The declaration of a consistent model is accepted if the resources are available. -/
theorem isAccepted_declaration {s : ResourceSource}
    (hs : ∀ name ∈ neededResources, s.contains name = true) :
    m.declaration.IsAccepted s := by
  have hdistinct : (m.repositoryNodes.map (·.name)).Nodup := by
    rw [repositoryNodes, List.map_map]
    exact SortedMap.nodup_map_values hm.stored
  constructor
  · intro b hb
    rw [List.mem_singleton.1 hb]
    rfl
  · rw [nodes_declaration, Node.isSetting_eq]
    refine isLevel_settingNodes_append m.settings.accepts_value hasValues_of_mem_repositoryNodes
      ?_ hdistinct
    intro n hn
    obtain ⟨r, hr, rfl⟩ := List.mem_map.1 hn
    exact (hm.isConsistent_of_mem_values hr).named
  · intro n hn
    rw [repositoryNodes_declaration] at hn
    obtain ⟨r, hr, rfl⟩ := List.mem_map.1 hn
    exact (hm.isConsistent_of_mem_values hr).isRepository_node
  · intro _
    exact hs

end IsConsistent

/-! ## Declarations and runs -/

/-- The models that resolution gives are the consistent ones. -/
theorem exists_resolve_iff_isConsistent {c : Compiler}
    (hc : ∀ name ∈ neededResources, c.resources.contains name = true)
    {m : Model} : (∃ d res, c.resolve d = .ok res ∧ res.model = m) ↔ m.IsConsistent := by
  constructor
  · rintro ⟨d, res, hres, rfl⟩
    obtain ⟨hd, rfl⟩ := (c.resolve_yields d res).1 hres
    exact hd.isConsistent
  · intro hm
    refine ⟨m.declaration, _, (c.resolve_yields m.declaration _).2 ⟨?_, rfl⟩, ?_⟩
    · exact hm.isAccepted_declaration hc
    · exact hm.model_declaration

/-- If all resources are available, the models that resolution gives are those that runs of
operations leave. -/
theorem resolved_iff_reached (c : Compiler)
    (hc : ∀ name ∈ neededResources, c.resources.contains name = true)
    (m : Model) :
    (∃ d res, c.resolve d = .ok res ∧ res.model = m) ↔ ∃ ops, Model.new.attemptAll ops = m := by
  rw [exists_resolve_iff_isConsistent hc]
  exact isReachable_iff_isConsistent.symm

/-- The model that the sample run leaves is declared, and the one that the sample declares is
reached. -/
theorem resolved_and_reached_samples :
    (∃ d res, Compiler.sample.resolve d = .ok res ∧
      res.model = Model.new.attemptAll sampleRun) ∧
    ∃ ops, Model.new.attemptAll ops = Declaration.sample.model := by
  have hresources : ∀ name ∈ neededResources,
      Compiler.sample.resources.contains name = true := by decide
  constructor
  · exact (resolved_iff_reached Compiler.sample hresources _).2 ⟨sampleRun, rfl⟩
  · exact (resolved_iff_reached Compiler.sample hresources _).1
      ⟨.sample, _, Compiler.resolve_sample, rfl⟩

end Model

end TriggerPlan
