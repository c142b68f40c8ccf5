import TriggerPlan.Proofs.Declaration.LastValue
import TriggerPlan.Proofs.Declaration.SettingKeys
import TriggerPlan.Proofs.Settings.Assignment
import TriggerPlan.Resolution

/-!
# Settings of a level

What the settings among the nodes of a level do to the layer of the level, and to a repository. They
are applied in order and succeed if each of them is well-formed by itself; then each attribute has
the last value that was given for it (`Layer.text_putAll`, `Layer.versionHistorySize_putAll`).
-/

namespace TriggerPlan

/-! ## Keys of nodes -/

/-- Reading the name of a key of repositories back gives the key. -/
theorem RepositoryKey.ofName?_eq_some_iff {s : String} {k : RepositoryKey} :
    ofName? s = some k ↔ k.name = s := by
  constructor
  · exact name_of_ofName?
  · rintro rfl
    cases k with
    | contextUrl => rfl
    | repoKey => rfl
    | setting key =>
      have hdistinct : ∀ key ∈ SettingKey.all,
          key.name ≠ "contextUrl" ∧ key.name ≠ "repoKey" := by decide
      obtain ⟨hurl, hkey⟩ := hdistinct key key.mem_all
      rw [ofName?, name, if_neg hurl, if_neg hkey, SettingKey.ofName?_name, Option.map_some]

/-- Different keys of repositories have different names. -/
theorem RepositoryKey.name_injective : Function.Injective RepositoryKey.name := by
  intro k k' h
  have hk : ofName? k.name = some k := ofName?_eq_some_iff.2 rfl
  rw [h, ofName?_eq_some_iff.2 rfl] at hk
  exact (Option.some.inj hk).symm

namespace Node

/-- A node is a setting for a key if it sets the name of the key. -/
theorem setting?_eq_some_iff {n : Node} {k : SettingKey} :
    n.setting? = some k ↔ n.sets k.name = true := by
  rw [sets_iff, setting?]
  by_cases h : n.hasValues = true
  · rw [if_pos h, SettingKey.ofName?_eq_some_iff]
    simp [h, eq_comm]
  · simp [h]

/-- The same for the keys of repositories. -/
theorem repositorySetting?_eq_some_iff {n : Node} {k : RepositoryKey} :
    n.repositorySetting? = some k ↔ n.sets k.name = true := by
  rw [sets_iff, repositorySetting?]
  by_cases h : n.hasValues = true
  · rw [if_pos h, RepositoryKey.ofName?_eq_some_iff]
    simp [h, eq_comm]
  · simp [h]

/-- A node carries at most one value. -/
theorem carries_iff {n : Node} {P : Value → Prop} :
    n.Carries P ↔ (n.arguments = [n.value] ∧ n.properties = [] ∧ n.block? = none) ∧ P n.value := by
  constructor
  · rintro ⟨v, hv, hp, hb, hP⟩
    have hvalue : n.value = v := by rw [value, hv, List.headD_cons]
    rw [hvalue]
    exact ⟨⟨hv, hp, hb⟩, hP⟩
  · rintro ⟨⟨hv, hp, hb⟩, hP⟩
    exact ⟨n.value, hv, hp, hb, hP⟩

/-- The value of a setting can be read if the node has the shape of a setting. -/
theorem settingValue_yields (n : Node) (path : String) :
    Yields (n.settingValue path)
      (n.arguments = [n.value] ∧ n.properties = [] ∧ n.block? = none) n.value := by
  unfold settingValue
  split
  · rename_i v hv hp hb
    have hvalue : n.value = v := by rw [value, hv, List.headD_cons]
    rw [hvalue]
    exact Yields.ok v ⟨hv, hp, hb⟩
  · rename_i hshape
    exact Yields.error _ _ fun h => hshape _ h.1 h.2.1 h.2.2

end Node

/-- On a level where all nodes with a value are settings, a key accepts the last value for it. -/
theorem accepts_of_lastValue? {κ : Type} {name : κ → String} {Accepts : κ → Value → Prop}
    (hname : Function.Injective name) {ns : List Node}
    (hns : ∀ n ∈ ns, n.hasValues = true → n.IsSettingOf name Accepts) {k : κ} {v : Value}
    (hv : lastValue? (name k) ns = some v) : Accepts k v := by
  obtain ⟨n, hn, hsets, rfl⟩ := exists_of_lastValue?_eq_some hv
  obtain ⟨hvalues, hk⟩ := Node.sets_iff.1 hsets
  obtain ⟨k', hk', hcarries⟩ := hns n hn hvalues
  obtain rfl : k = k' := hname (hk.symm.trans hk')
  exact (Node.carries_iff.1 hcarries).2

/-! ## Layers -/

namespace Layer

/-- The layer after a node, if the node is a setting. -/
def putNode (l : Layer) (n : Node) : Layer :=
  match n.setting? with
  | some key => l.put key n.value
  | none => l

/-- The layer after the settings among some nodes, in order. -/
def putAll (l : Layer) (ns : List Node) : Layer :=
  ns.foldl putNode l

theorem applyNode_yields (l : Layer) (path : String) (key : SettingKey) (n : Node) :
    Yields (l.applyNode path key n) (n.Carries key.Accepts) (l.put key n.value) :=
  ((n.settingValue_yields path).bind (l.assign_yields path key n.value)).congr
    Node.carries_iff.symm fun _ => rfl

/-- The settings of a level are applied if each of them carries a value for its key. -/
theorem applySettings_yields (l : Layer) (path : String) (ns : List Node) :
    Yields (l.applySettings path ns) (∀ n ∈ ns, ∀ k, n.setting? = some k → n.Carries k.Accepts)
      (l.putAll ns) := by
  refine Yields.foldlM (fun l n => ?_) ns l
  unfold putNode
  cases h : n.setting? with
  | some key => exact (l.applyNode_yields path key n).congr (by simp) fun _ => rfl
  | none => exact Yields.ok l (by simp)

/-- The nodes of a host are applied if each of them is a setting. -/
theorem applyHostNodes_yields (l : Layer) (path : String) (ns : List Node) :
    Yields (l.applyHostNodes path ns) (∀ n ∈ ns, n.IsSetting) (l.putAll ns) := by
  rw [Node.isSetting_eq]
  refine Yields.foldlM (fun l n => ?_) ns l
  cases h : SettingKey.ofName? n.name with
  | some key =>
    have hname : key.name = n.name := SettingKey.name_of_ofName? h
    refine (l.applyNode_yields path key n).congr ⟨fun hn => ⟨key, hname.symm, hn⟩, ?_⟩ fun hn => ?_
    · rintro ⟨k, hk, hn⟩
      rwa [SettingKey.name_injective (hname.trans hk)]
    · have hset : n.setting? = some key :=
        Node.setting?_eq_some_iff.2 (Node.sets_iff.2 ⟨hn.hasValues, hname.symm⟩)
      rw [putNode, hset]
  | none =>
    refine Yields.error _ _ ?_
    rintro ⟨k, hk, -⟩
    rw [hk, SettingKey.ofName?_name] at h
    exact Option.some_ne_none _ h

/-- What an assignment sets for one key only has the last value given for this key. -/
theorem get_putAll {τ : Type} (get : Layer → τ) (key : SettingKey) {ofValue : Value → τ}
    (hput : ∀ l k v, get (put l k v) = if k = key then ofValue v else get l) (l : Layer)
    (ns : List Node) : get (l.putAll ns) = (lastValue? key.name ns).elim (get l) ofValue := by
  refine foldl_eq_lastValue? get ?_ ?_ ns l
  · intro l n hn
    rw [putNode, Node.setting?_eq_some_iff.2 hn]
    exact (hput l key n.value).trans (if_pos rfl)
  · intro l n hn
    unfold putNode
    cases h : n.setting? with
    | none => rfl
    | some k =>
      have hk : k ≠ key := by
        rintro rfl
        rw [Node.setting?_eq_some_iff.1 h] at hn
        exact Bool.noConfusion hn
      exact (hput l k n.value).trans (if_neg hk)

/-- A text attribute has the last value given for it. -/
theorem text_putAll (l : Layer) (ns : List Node) (k : TextKey) :
    (l.putAll ns).text k = (lastValue? k.name ns).elim (l.text k) Value.text? :=
  get_putAll (fun l => l.text k) (.text k) (fun l key v => text_put l key v k) l ns

/-- The size of the version history has the last value given for it. -/
theorem versionHistorySize_putAll (l : Layer) (ns : List Node) :
    (l.putAll ns).versionHistorySize =
      (lastValue? SettingKey.versionHistorySize.name ns).elim l.versionHistorySize
        fun v => v.size?.map UInt32.ofNat :=
  get_putAll versionHistorySize .versionHistorySize versionHistorySize_put l ns

/-- A layer is decided by the settings for each key. -/
theorem putAll_congr (l : Layer) {ns ns' : List Node}
    (h : ∀ k : SettingKey, ns.filter (·.sets k.name) = ns'.filter (·.sets k.name)) :
    l.putAll ns = l.putAll ns' := by
  have hlast (k : SettingKey) : lastValue? k.name ns = lastValue? k.name ns' := by
    rw [lastValue?, lastValue?, h k]
  refine Layer.ext_text (fun k => ?_) ?_
  · have hk : lastValue? k.name ns = lastValue? k.name ns' := hlast (.text k)
    rw [text_putAll, text_putAll, hk]
  · rw [versionHistorySize_putAll, versionHistorySize_putAll, hlast]

end Layer

/-! ## Repositories -/

/-- The key of every level that a key of repositories stands for, if it is none of their own. -/
def RepositoryKey.settingKey? : RepositoryKey → Option SettingKey
  | contextUrl => none
  | repoKey => none
  | setting key => some key

/-- A setting of every level is a setting of repositories too, for the same key. -/
theorem Node.setting?_eq_bind (n : Node) :
    n.setting? = n.repositorySetting?.bind RepositoryKey.settingKey? := by
  refine Option.ext fun k => ?_
  have hset : n.setting? = some k ↔ n.repositorySetting? = some (.setting k) := by
    rw [setting?_eq_some_iff, repositorySetting?_eq_some_iff, RepositoryKey.name]
  rw [hset]
  cases n.repositorySetting? with
  | none => simp
  | some key => cases key <;> simp [RepositoryKey.settingKey?]

namespace Repository

/-- The repository with what a key stands for set to a value. -/
def put (r : Repository) (key : RepositoryKey) (v : Value) : Repository :=
  match key with
  | .contextUrl => { r with contextUrl := v.text? }
  | .repoKey => { r with repoKey := v.text? }
  | .setting key => { r with settings := r.settings.put key v }

/-- The repository after a node, if the node is a setting. -/
def putNode (r : Repository) (n : Node) : Repository :=
  match n.repositorySetting? with
  | some key => r.put key n.value
  | none => r

/-- The repository after the settings among some nodes, in order. -/
def putAll (r : Repository) (ns : List Node) : Repository :=
  ns.foldl putNode r

theorem applyNode_yields (r : Repository) (key : RepositoryKey) (n : Node) :
    Yields (r.applyNode key n) (n.Carries key.Accepts) (r.put key n.value) := by
  have htext := Layer.textOfValue_yields r.path n.name n.value
  refine ((n.settingValue_yields r.path).bind ?_).congr Node.carries_iff.symm fun _ => rfl
  cases key with
  | contextUrl => exact htext.bind_pure fun t => { r with contextUrl := t }
  | repoKey => exact htext.bind_pure fun t => { r with repoKey := t }
  | setting key =>
    exact (r.settings.assign_yields r.path key n.value).bind_pure fun l => { r with settings := l }

/-- The settings of a repository are applied if each of them carries a value for its key. -/
theorem applySettings_yields (r : Repository) (ns : List Node) :
    Yields (r.applySettings ns)
      (∀ n ∈ ns, ∀ k, n.repositorySetting? = some k → n.Carries k.Accepts) (r.putAll ns) := by
  refine Yields.foldlM (fun r n => ?_) ns r
  unfold putNode
  cases h : n.repositorySetting? with
  | some key => exact (r.applyNode_yields key n).congr (by simp) fun _ => rfl
  | none => exact Yields.ok r (by simp)

/-- What the settings of a repository do: the last value counts for each of the two keys of its own,
and the other settings go to its layer. -/
theorem putAll_eq (r : Repository) (ns : List Node) :
    r.putAll ns =
      { r with
        contextUrl := (lastValue? RepositoryKey.contextUrl.name ns).elim r.contextUrl Value.text?
        repoKey := (lastValue? RepositoryKey.repoKey.name ns).elim r.repoKey Value.text?
        settings := r.settings.putAll ns } := by
  induction ns using List.reverseRecOn with
  | nil => rfl
  | append_singleton ns n ih =>
    have hsets (k : RepositoryKey) : n.sets k.name = true ↔ n.repositorySetting? = some k :=
      Node.repositorySetting?_eq_some_iff.symm
    have hlayer : r.settings.putAll (ns ++ [n]) = (r.settings.putAll ns).putNode n :=
      List.foldl_concat ..
    rw [putAll, List.foldl_concat, ← putAll, ih, lastValue?_concat, lastValue?_concat, hlayer]
    simp only [hsets]
    unfold putNode Layer.putNode
    rw [n.setting?_eq_bind]
    -- the node has one key at most, so at most one of the three components changes
    cases n.repositorySetting? with
    | none => simp
    | some key => cases key <;> simp [put, RepositoryKey.settingKey?]

end Repository

end TriggerPlan
