/-!
# Setting keys

The delegated attributes of a trigger and the names by which a declaration sets them. Seven of them
are texts, the size of the version history is a number.
-/

namespace TriggerPlan

/-- An attribute whose value is a text. -/
inductive TextKey where
  | group
  | baseDirectory
  | releaseArtifact
  | stagingArtifact
  | stagingArtifactType
  | stagingArtifactPackaging
  | stagingTask
  deriving DecidableEq, Repr

/-- An attribute that any level can set. -/
inductive SettingKey where
  | text (key : TextKey)
  | versionHistorySize
  deriving DecidableEq, Repr

def TextKey.all : List TextKey :=
  [.group, .baseDirectory, .releaseArtifact, .stagingArtifact, .stagingArtifactType,
    .stagingArtifactPackaging, .stagingTask]

theorem TextKey.mem_all (k : TextKey) : k ∈ TextKey.all := by
  cases k <;> decide

/-- The name of a text attribute in a declaration. -/
def TextKey.name : TextKey → String
  | group => "group"
  | baseDirectory => "baseDirectory"
  | releaseArtifact => "releaseArtifact"
  | stagingArtifact => "stagingArtifact"
  | stagingArtifactType => "stagingArtifactType"
  | stagingArtifactPackaging => "stagingArtifactPackaging"
  | stagingTask => "stagingTask"

namespace SettingKey

def all : List SettingKey :=
  TextKey.all.map .text ++ [.versionHistorySize]

theorem mem_all (k : SettingKey) : k ∈ all := by
  cases k with
  | text k => exact List.mem_append_left _ (List.mem_map_of_mem k.mem_all)
  | versionHistorySize => exact List.mem_append_right _ List.mem_cons_self

/-- The name of an attribute in a declaration. -/
def name : SettingKey → String
  | text k => k.name
  | versionHistorySize => "versionHistorySize"

/-- The attribute of that name. -/
def ofName? (s : String) : Option SettingKey :=
  all.find? (·.name == s)

theorem name_of_ofName? {s : String} {k : SettingKey} (h : ofName? s = some k) : k.name = s := by
  simpa using List.find?_some h

/-- Different attributes have different names. -/
theorem name_injective {k k' : SettingKey} (h : k.name = k'.name) : k = k' := by
  have distinct : ∀ k ∈ all, ∀ k' ∈ all, k.name = k'.name → k = k' := by decide
  exact distinct k k.mem_all k' k'.mem_all h

/-- Reading a name back gives the attribute. -/
@[simp] theorem ofName?_name (k : SettingKey) : ofName? k.name = some k := by
  cases h : ofName? k.name with
  | none =>
    have := List.find?_eq_none.1 h k k.mem_all
    simp at this
  | some k' => rw [name_injective (name_of_ofName? h)]

theorem ofName?_eq_some_iff {s : String} {k : SettingKey} : ofName? s = some k ↔ k.name = s :=
  ⟨name_of_ofName?, fun h => h ▸ ofName?_name k⟩

end SettingKey

/-! ## Keys of repositories -/

/-- What a setting inside a repository can be for: two attributes that only repositories have, and
those that every level has. -/
inductive RepositoryKey where
  | contextUrl
  | repoKey
  | setting (key : SettingKey)
  deriving DecidableEq, Repr

namespace RepositoryKey

/-- The name of the key in a declaration. -/
def name : RepositoryKey → String
  | contextUrl => "contextUrl"
  | repoKey => "repoKey"
  | setting key => key.name

/-- The key of that name. -/
def ofName? (s : String) : Option RepositoryKey :=
  if s = "contextUrl" then some contextUrl
  else if s = "repoKey" then some repoKey
  else (SettingKey.ofName? s).map setting

theorem name_of_ofName? {s : String} {k : RepositoryKey} (h : ofName? s = some k) : k.name = s := by
  unfold ofName? at h
  split at h
  · simp_all [name, ← Option.some.inj h]
  · split at h
    · simp_all [name, ← Option.some.inj h]
    · obtain ⟨key, hkey, rfl⟩ := Option.map_eq_some_iff.1 h
      exact SettingKey.name_of_ofName? hkey

end RepositoryKey

end TriggerPlan
