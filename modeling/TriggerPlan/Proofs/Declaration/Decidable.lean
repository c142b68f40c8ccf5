import TriggerPlan.Proofs.Declaration.Language

/-!
# Deciding the language

The language of declarations is decidable: a node carries at most one value, there are finitely many
names of settings, and everything else is asked of the nodes of a finite tree.
-/

namespace TriggerPlan

/-! ## Values -/

instance (v : Value) : Decidable v.IsText :=
  match v with
  | .string _ => .isTrue trivial
  | .null => .isTrue trivial
  | .integer _ => .isFalse id
  | .float _ => .isFalse id
  | .boolean _ => .isFalse id

instance (v : Value) : Decidable v.IsSize :=
  match v with
  | .null => .isTrue trivial
  | .integer i => inferInstanceAs (Decidable (0 ≤ i ∧ i < Size.bound))
  | .string s => inferInstanceAs (Decidable (Size.IsNumeral s ∧ Size.value s < Size.bound))
  | .float _ => .isFalse id
  | .boolean _ => .isFalse id

/-! ## Nodes -/

namespace Node

instance (n : Node) (P : Value → Prop) [DecidablePred P] : Decidable (n.Carries P) :=
  match h : n.arguments with
  | [] => .isFalse (by simp [Carries, h])
  | [v] => decidable_of_iff (n.properties = [] ∧ n.block?.isNone ∧ P v) (by simp [Carries, h])
  | _ :: _ :: _ => .isFalse (by simp [Carries, h])

instance (n : Node) : Decidable n.IsSetting :=
  inferInstanceAs (Decidable (n.name ∈ textSettings ∧ n.Carries Value.IsText ∨
    n.name = "versionHistorySize" ∧ n.Carries Value.IsSize))

instance (n : Node) : Decidable n.IsRepositorySetting :=
  inferInstanceAs (Decidable (n.IsSetting ∨
    (n.name = "contextUrl" ∨ n.name = "repoKey") ∧ n.Carries Value.IsText))

instance (n : Node) : Decidable n.IsHost :=
  inferInstanceAs (Decidable (∀ m ∈ n.children, m.IsSetting))

end Node

/-! ## Levels and declarations -/

instance (P : Node → Prop) [DecidablePred P] (ns : List Node) : Decidable (IsLevel P ns) :=
  decidable_of_iff
    ((∀ n ∈ ns, n.hasValues = true → P n) ∧
      (∀ n ∈ entityNodes ns, ¬Text.IsBlank n.name) ∧
      ((entityNodes ns).map (·.name)).Nodup)
    ⟨fun ⟨hsettings, hnamed, hdistinct⟩ => ⟨hsettings, hnamed, hdistinct⟩,
      fun h => ⟨h.settings, h.named, h.distinct⟩⟩

instance (n : Node) : Decidable n.IsRepository :=
  decidable_of_iff (IsLevel Node.IsRepositorySetting n.children ∧ ∀ h ∈ n.hostNodes, h.IsHost)
    ⟨fun ⟨hlevel, hhosts⟩ => ⟨hlevel, hhosts⟩, fun h => ⟨h.level, h.hosts⟩⟩

namespace Declaration

instance (d : Declaration) (s : ResourceSource) : Decidable (d.IsAccepted s) :=
  decidable_of_iff
    ((∀ b ∈ d.blocks, b.hasValues = false) ∧ IsLevel Node.IsSetting d.nodes ∧
      (∀ r ∈ d.repositoryNodes, r.IsRepository) ∧
      ((∃ r ∈ d.repositoryNodes, r.hostNodes.isEmpty = false) →
        ∀ name ∈ neededResources, s.contains name = true))
    ⟨fun ⟨hblocks, hlevel, hrepositories, hresources⟩ =>
        ⟨hblocks, hlevel, hrepositories, fun h => hresources (by simpa using h)⟩,
      fun h => ⟨h.blocks, h.level, h.repositories, fun hr => h.resources (by simpa using hr)⟩⟩

end Declaration

/-! ## A sample -/

/-- A node with one value. -/
def Node.ofValue (name : String) (v : Value) : Node :=
  ⟨name, [v], [], none⟩

/-- A node with a block. -/
def Node.ofBlock (name : String) (ns : List Node) : Node :=
  ⟨name, [], [], some ns⟩

namespace Declaration

/-- A host that leaves its task to the repository. -/
def sampleHost : Node :=
  .ofBlock "alpha"
    [.ofValue "stagingTask" .null, .ofValue "versionHistorySize" (.string "+07")]

/-- A repository with two hosts, the second of which is declared by a node named like a setting. -/
def sampleRepository : Node :=
  .ofBlock "north"
    [.ofValue "contextUrl" (.string "https://repo"),
      .ofValue "stagingTask" (.string "stage"),
      .ofValue "versionHistorySize" (.integer 3),
      sampleHost,
      .ofBlock "group" []]

/-- A declaration of one repository, with a setting that is given twice. -/
def sample : Declaration :=
  ⟨[.ofBlock "triggers"
    [.ofValue "group" (.string "org.first"),
      .ofValue "group" (.string "org.second"),
      sampleRepository]]⟩

/-- The source that has an empty file under every name. -/
def emptyFiles : ResourceSource :=
  ⟨fun _ => some .empty⟩

example : sample.IsAccepted emptyFiles := by decide +kernel

end Declaration

end TriggerPlan
