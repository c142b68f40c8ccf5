import TriggerPlan.Proofs.Resolution.Views

/-!
# Contexts of the described triggers

What the context of a trigger holds in terms of the declaration alone. Each attribute is looked for
in the host node, in the repository node and on the top level, in this order; on each level the last
value counts, and `null` counts as no value there. The defaults of the top level stand only if
nothing is set there, `null` included.
-/

namespace TriggerPlan

/-! ## Declared attributes -/

/-- The text that the nodes of a level give for a key. -/
def levelText? (key : String) (ns : List Node) : Option String :=
  (lastValue? key ns).bind Value.text?

/-- The size that the nodes of a level give. -/
def levelSize? (ns : List Node) : Option Nat :=
  (lastValue? "versionHistorySize" ns).bind Value.size?

namespace Declaration

/-- The text that the top level gives for a key: the type of the staged artifact is `zip` if there is
no setting for it at all. -/
def globalText? (d : Declaration) (key : String) : Option String :=
  match lastValue? key d.nodes with
  | some v => v.text?
  | none => if key = "stagingArtifactType" then some "zip" else none

/-- The size that the top level gives: two, if there is no setting for it at all. -/
def globalSize? (d : Declaration) : Option Nat :=
  match lastValue? "versionHistorySize" d.nodes with
  | some v => v.size?
  | none => some 2

/-- The text for a key and the host `h` of the repository `r`: the innermost one. -/
def text? (d : Declaration) (r h : Node) (key : String) : Option String :=
  (levelText? key h.children).or ((levelText? key r.children).or (d.globalText? key))

/-- The size of the version history for the host `h` of the repository `r`. -/
def size? (d : Declaration) (r h : Node) : Option Nat :=
  (levelSize? h.children).or ((levelSize? r.children).or d.globalSize?)

/-- The entries of the context for the host `h` of the repository `r`, in the order of their keys.
Some of them are properties of the build. -/
def contextEntries (d : Declaration) (properties : ProjectProperties) (r h : Node) :
    List (String × Option String) :=
  [("baseDirectory", d.text? r h "baseDirectory"),
    ("clientName", properties.clientName),
    ("mavenContextUrl", levelText? "contextUrl" r.children),
    ("mavenRepoKey", levelText? "repoKey" r.children),
    ("release", properties.release),
    ("releaseArtifactId", d.text? r h "releaseArtifact"),
    ("releaseGroupId", d.text? r h "group"),
    ("stagingArtifactId", d.text? r h "stagingArtifact"),
    ("stagingArtifactPackaging", some ((d.text? r h "stagingArtifactPackaging").getD h.name)),
    ("stagingArtifactType", d.text? r h "stagingArtifactType"),
    ("stagingGroupId", d.text? r h "group"),
    ("stagingTaskArg", d.text? r h "stagingTask"),
    ("systemName", properties.systemName),
    ("toolVersion", properties.toolVersion),
    ("versionHistorySize", some (toString ((d.size? r h).getD 2)))]

end Declaration

/-! ## Layers and levels -/

namespace Layer

/-- A layer that starts from nothing has the texts of its level. -/
theorem text_empty_putAll (ns : List Node) (k : TextKey) :
    (empty.putAll ns).text k = levelText? k.name ns := by
  have hempty : empty.text k = none := by cases k <;> rfl
  rw [text_putAll, hempty, levelText?]
  cases lastValue? k.name ns <;> rfl

/-- It has the size of its level too. -/
theorem versionHistorySize_empty_putAll (ns : List Node) :
    (empty.putAll ns).versionHistorySize = (levelSize? ns).map UInt32.ofNat := by
  rw [versionHistorySize_putAll, levelSize?]
  show (lastValue? "versionHistorySize" ns).elim _ _ = _
  cases lastValue? "versionHistorySize" ns <;> rfl

end Layer

namespace Declaration

/-- The global layer has the texts of the top level. -/
theorem text_settings (d : Declaration) (k : TextKey) :
    d.settings.text k = d.globalText? k.name := by
  have hdefault : Layer.globalDefaults.text k =
      if k.name = "stagingArtifactType" then some "zip" else none := by cases k <;> rfl
  rw [settings, Layer.text_putAll, hdefault, globalText?]
  cases lastValue? k.name d.nodes <;> rfl

/-- The global layer has the size of the top level. -/
theorem versionHistorySize_settings (d : Declaration) :
    d.settings.versionHistorySize = d.globalSize?.map UInt32.ofNat := by
  rw [settings, Layer.versionHistorySize_putAll, globalSize?]
  show (lastValue? "versionHistorySize" d.nodes).elim _ _ = _
  cases lastValue? "versionHistorySize" d.nodes <;> rfl

end Declaration

/-! ## Views -/

namespace Declaration

/-- A view has the texts that are declared for it. -/
theorem text_view (d : Declaration) (r h : Node) (k : TextKey) :
    (d.view r h).text k = d.text? r h k.name := by
  have hhost : (d.view r h).trigger.settings.text k = levelText? k.name h.children :=
    Layer.text_empty_putAll h.children k
  have hrepository : (d.view r h).repository.settings.text k = levelText? k.name r.children :=
    Layer.text_empty_putAll r.children k
  have hglobal : (d.view r h).global.text k = d.globalText? k.name := d.text_settings k
  rw [View.text, View.firstDefined_eq_or, hhost, hrepository, hglobal, text?]

/-- A view has the size that is declared for it, as a number of fixed width. -/
theorem firstDefined_size_view (d : Declaration) (r h : Node) :
    (d.view r h).firstDefined (·.versionHistorySize) = (d.size? r h).map UInt32.ofNat := by
  have hhost : (d.view r h).trigger.settings.versionHistorySize =
      (levelSize? h.children).map UInt32.ofNat :=
    Layer.versionHistorySize_empty_putAll h.children
  have hrepository : (d.view r h).repository.settings.versionHistorySize =
      (levelSize? r.children).map UInt32.ofNat :=
    Layer.versionHistorySize_empty_putAll r.children
  have hglobal : (d.view r h).global.versionHistorySize = d.globalSize?.map UInt32.ofNat :=
    d.versionHistorySize_settings
  rw [View.firstDefined_eq_or, hhost, hrepository, hglobal, size?, Option.map_or, Option.map_or]

end Declaration

/-! ## Sizes in range -/

/-- A level whose last value for the size is one gives a number in range. -/
theorem levelSize?_lt_bound {ns : List Node}
    (h : ∀ v, lastValue? "versionHistorySize" ns = some v → v.IsSize) {n : Nat}
    (hn : levelSize? ns = some n) : n < Size.bound := by
  obtain ⟨v, hv, hvn⟩ := Option.bind_eq_some_iff.1 hn
  exact (h v hv).lt_bound hvn

namespace Declaration

variable {d : Declaration} {s : ResourceSource}

/-- On a level of settings the last value for the size is one. -/
theorem isSize_of_lastValue? {ns : List Node}
    (hns : ∀ n ∈ ns, n.hasValues = true → n.IsSetting) {v : Value}
    (hv : lastValue? "versionHistorySize" ns = some v) : v.IsSize := by
  rw [Node.isSetting_eq] at hns
  exact accepts_of_lastValue? (k := .versionHistorySize) (fun _ _ => SettingKey.name_injective)
    hns hv

/-- The size that the top level of an accepted declaration gives is in range. -/
theorem IsAccepted.globalSize?_lt_bound (h : d.IsAccepted s) {n : Nat}
    (hn : d.globalSize? = some n) : n < Size.bound := by
  unfold globalSize? at hn
  split at hn
  · rename_i v hv
    exact (isSize_of_lastValue? h.level.settings hv).lt_bound hn
  · obtain rfl := Option.some.inj hn
    decide

/-- The size that an accepted declaration gives for a host is in range. -/
theorem IsAccepted.size?_lt_bound (hd : d.IsAccepted s) {r h : Node}
    (hr : r ∈ d.repositoryNodes) (hh : h ∈ r.hostNodes) {n : Nat} (hn : d.size? r h = some n) :
    n < Size.bound := by
  have hrepository := hd.repositories r hr
  have howner := hrepository.level.settings
  rw [Node.isRepositorySetting_eq] at howner
  -- the size is that of the first level that gives one, and each of them was checked
  rcases Option.or_eq_some_iff.1 hn with hn | ⟨-, hn⟩
  · exact levelSize?_lt_bound
      (fun v => isSize_of_lastValue? fun n hn _ => hrepository.hosts h hh n hn) hn
  rcases Option.or_eq_some_iff.1 hn with hn | ⟨-, hn⟩
  · exact levelSize?_lt_bound
      (fun v => accepts_of_lastValue? (k := .setting .versionHistorySize)
        RepositoryKey.name_injective howner) hn
  · exact hd.globalSize?_lt_bound hn

/-- A view of an accepted declaration has the size that is declared for it, or two. -/
theorem IsAccepted.toNat_versionHistorySize_view (hd : d.IsAccepted s) {r h : Node}
    (hr : r ∈ d.repositoryNodes) (hh : h ∈ r.hostNodes) :
    (d.view r h).versionHistorySize.toNat = (d.size? r h).getD 2 := by
  rw [View.versionHistorySize, firstDefined_size_view]
  cases hn : d.size? r h with
  | none => rfl
  | some n =>
    -- a number in range survives the fixed width
    exact UInt32.toNat_ofNat_of_lt' (hd.size?_lt_bound hr hh hn)

/-! ## Contexts -/

/-- The entries for a view are the declared ones. -/
theorem IsAccepted.contextEntries_view (hd : d.IsAccepted s) (properties : ProjectProperties)
    {r h : Node} (hr : r ∈ d.repositoryNodes) (hh : h ∈ r.hostNodes) :
    (d.view r h).contextEntries properties = d.contextEntries properties r h := by
  rw [View.contextEntries, View.stagingArtifactPackaging, hd.toNat_versionHistorySize_view hr hh]
  simp only [text_view]
  rfl

end Declaration

/-- The keys of every context, in order. -/
def contextKeys : List String :=
  ["baseDirectory", "clientName", "mavenContextUrl", "mavenRepoKey", "release",
    "releaseArtifactId", "releaseGroupId", "stagingArtifactId", "stagingArtifactPackaging",
    "stagingArtifactType", "stagingGroupId", "stagingTaskArg", "systemName", "toolVersion",
    "versionHistorySize"]

/-- A context holds the entries of its view as they are listed, since their keys are in order. -/
theorem View.toList_context (v : View) (properties : ProjectProperties) :
    (v.context properties).toList = v.contextEntries properties := by
  have hkeys : (v.contextEntries properties).map Prod.fst = contextKeys := rfl
  have hsorted : contextKeys.Pairwise (· < ·) := by decide
  rw [← hkeys, List.pairwise_map] at hsorted
  exact SortedMap.toList_ofList_of_sorted hsorted

namespace Compiler

/-- For each host node of each repository node there is exactly one pipeline, and it renders with
the declared context. -/
theorem context_eq_declared {c : Compiler} {d : Declaration} {res : Resolution}
    (hres : c.resolve d = .ok res) {r h : Node} (hr : r ∈ d.repositoryNodes)
    (hh : h ∈ r.hostNodes) :
    ∃ p context,
      res.pipelines.filter (fun p => p.repository = r.name ∧ p.hostname = h.name) = [p] ∧
      p.context? = some context ∧ context.toList = d.contextEntries c.properties r h := by
  obtain ⟨hd, rfl⟩ := (c.resolve_yields d res).1 hres
  have hview : d.view r h ∈ d.views := Declaration.mem_views.2 ⟨r, hr, h, hh, rfl⟩
  refine ⟨c.pipeline (d.view r h), (d.view r h).context c.properties, ?_, rfl, ?_⟩
  · exact hd.filter_pipelines hview
  · rw [View.toList_context, hd.contextEntries_view c.properties hr hh]

/-- A build with all properties, which finds every resource. -/
def sampleBuild : Compiler where
  properties := { clientName := some "client", release := some "1.4.0", systemName := some "system" }
  resources := Declaration.emptyFiles

end Compiler

namespace Declaration

/-- A host that has its task from the repository, where it says `null`. -/
def fullHost : Node :=
  .ofBlock "alpha"
    [.ofValue "baseDirectory" (.string "release/app"),
      .ofValue "stagingTask" .null,
      .ofValue "versionHistorySize" (.string "+07")]

/-- A repository with both keys of its own and with a packaging. -/
def fullRepository : Node :=
  .ofBlock "north"
    [.ofValue "contextUrl" (.string "https://repo"),
      .ofValue "repoKey" (.string "deploy"),
      .ofValue "stagingArtifact" (.string "image"),
      .ofValue "stagingArtifactPackaging" (.string "tar"),
      .ofValue "stagingTask" (.string "stage"),
      .ofValue "versionHistorySize" (.integer 3),
      fullHost,
      .ofBlock "beta" [.ofValue "stagingArtifactPackaging" .null]]

/-- A declaration in which there is a setting for each key, and two for the group. -/
def fullSample : Declaration :=
  ⟨[.ofBlock "triggers"
    [.ofValue "group" (.string "org.first"),
      .ofValue "group" (.string "org.second"),
      .ofValue "releaseArtifact" (.string "product"),
      .ofValue "stagingArtifactType" (.string "war"),
      fullRepository]]⟩

end Declaration

namespace Compiler

theorem resolve_fullSample :
    sampleBuild.resolve .fullSample =
      .ok ⟨Declaration.fullSample.model, Declaration.fullSample.views.map sampleBuild.pipeline⟩ :=
  (sampleBuild.resolve_yields .fullSample _).2 ⟨by decide +kernel, rfl⟩

/-- The first host of the full sample takes its task from the repository, where it says `null`, its
group from the second of two settings on the top level, and its size from a numeral of its own. -/
theorem context_of_sampleHost :
    ∃ res, sampleBuild.resolve .fullSample = .ok res ∧ ∃ p context,
      res.pipelines.filter (fun p => p.repository = "north" ∧ p.hostname = "alpha") = [p] ∧
      p.context? = some context ∧
      context.toList =
        [("baseDirectory", some "release/app"), ("clientName", some "client"),
          ("mavenContextUrl", some "https://repo"), ("mavenRepoKey", some "deploy"),
          ("release", some "1.4.0"), ("releaseArtifactId", some "product"),
          ("releaseGroupId", some "org.second"), ("stagingArtifactId", some "image"),
          ("stagingArtifactPackaging", some "tar"), ("stagingArtifactType", some "war"),
          ("stagingGroupId", some "org.second"), ("stagingTaskArg", some "stage"),
          ("systemName", some "system"), ("toolVersion", some "0.1.0"),
          ("versionHistorySize", some "7")] :=
  ⟨_, resolve_fullSample, context_eq_declared (r := Declaration.fullRepository)
    (h := Declaration.fullHost) resolve_fullSample (List.mem_singleton_self _) List.mem_cons_self⟩

end Compiler

end TriggerPlan
