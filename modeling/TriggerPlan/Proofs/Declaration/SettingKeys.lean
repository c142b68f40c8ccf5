import TriggerPlan.Proofs.Declaration.Language

/-!
# Settings by keys

The language lists the names of the settings. Resolution reads a key off a name and looks at the
value then, so a node is a setting if its value is one that the key of its name accepts.
-/

namespace TriggerPlan

/-- All keys of repositories. -/
def RepositoryKey.all : List RepositoryKey :=
  [.contextUrl, .repoKey] ++ SettingKey.all.map .setting

theorem RepositoryKey.mem_all (k : RepositoryKey) : k ∈ RepositoryKey.all := by
  cases k with
  | contextUrl => decide
  | repoKey => decide
  | setting key => exact List.mem_append_right _ (List.mem_map_of_mem key.mem_all)

/-- The values that a repository accepts for a key. -/
def RepositoryKey.Accepts : RepositoryKey → Value → Prop
  | contextUrl => Value.IsText
  | repoKey => Value.IsText
  | setting key => key.Accepts

/-- The node sets one of some named keys to a value that the key accepts. -/
def Node.IsSettingOf {κ : Type} (name : κ → String) (Accepts : κ → Value → Prop) (n : Node) :
    Prop :=
  ∃ k, n.name = name k ∧ n.Carries (Accepts k)

/-- The listed names are those of the text attributes. -/
theorem mem_textSettings {s : String} : s ∈ textSettings ↔ ∃ k : TextKey, s = k.name := by
  have hall : textSettings = TextKey.all.map TextKey.name := rfl
  rw [hall, List.mem_map]
  constructor
  · rintro ⟨k, -, rfl⟩
    exact ⟨k, rfl⟩
  · rintro ⟨k, rfl⟩
    exact ⟨k, k.mem_all, rfl⟩

namespace Node

theorem isSetting_iff {n : Node} :
    n.IsSetting ↔ n.IsSettingOf SettingKey.name SettingKey.Accepts := by
  rw [IsSetting, mem_textSettings]
  constructor
  · rintro (⟨⟨k, hk⟩, hn⟩ | ⟨hname, hn⟩)
    · exact ⟨.text k, hk, hn⟩
    · exact ⟨.versionHistorySize, hname, hn⟩
  · rintro ⟨k, hk, hn⟩
    cases k with
    | text k => exact .inl ⟨⟨k, hk⟩, hn⟩
    | versionHistorySize => exact .inr ⟨hk, hn⟩

theorem isRepositorySetting_iff {n : Node} :
    n.IsRepositorySetting ↔ n.IsSettingOf RepositoryKey.name RepositoryKey.Accepts := by
  rw [IsRepositorySetting, isSetting_iff]
  constructor
  · rintro (⟨k, hk, hn⟩ | ⟨hname | hname, hn⟩)
    · exact ⟨.setting k, hk, hn⟩
    · exact ⟨.contextUrl, hname, hn⟩
    · exact ⟨.repoKey, hname, hn⟩
  · rintro ⟨k, hk, hn⟩
    cases k with
    | contextUrl => exact .inr ⟨.inl hk, hn⟩
    | repoKey => exact .inr ⟨.inr hk, hn⟩
    | setting k => exact .inl ⟨k, hk, hn⟩

/-- The settings of a level as those of its keys. -/
theorem isSetting_eq : IsSetting = IsSettingOf SettingKey.name SettingKey.Accepts :=
  funext fun _ => propext isSetting_iff

theorem isRepositorySetting_eq :
    IsRepositorySetting = IsSettingOf RepositoryKey.name RepositoryKey.Accepts :=
  funext fun _ => propext isRepositorySetting_iff

end Node

end TriggerPlan
