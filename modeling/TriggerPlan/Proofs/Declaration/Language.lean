import TriggerPlan.Declaration.Basic
import TriggerPlan.Proofs.Resources
import TriggerPlan.Proofs.Settings.Numeral
import TriggerPlan.Proofs.Text.Blank

/-!
# The language of declarations

Which declarations can be resolved, said of the tree alone. A node with a value has to be a setting
of its level, and a node without one declares an entity: a repository on the top level, a host
inside a repository. So a node is told apart by its values, not by its name.
-/

namespace TriggerPlan

/-! ## Values of settings -/

/-- A value for a text attribute: a string, or `null` to unset it. -/
def Value.IsText : Value → Prop
  | .string _ => True
  | .null => True
  | _ => False

/-- A value for a size: an integer in range, a numeral in range, or `null` to unset it. -/
def Value.IsSize : Value → Prop
  | .null => True
  | .integer i => 0 ≤ i ∧ i < Size.bound
  | .string s => Size.IsNumeral s ∧ Size.value s < Size.bound
  | _ => False

/-- The values that an attribute can be set to. -/
def SettingKey.Accepts : SettingKey → Value → Prop
  | text _ => Value.IsText
  | versionHistorySize => Value.IsSize

/-! ## Nodes -/

/-- The node has exactly one argument, for which `P` holds, and neither a property nor a block. -/
def Node.Carries (n : Node) (P : Value → Prop) : Prop :=
  ∃ v, n.arguments = [v] ∧ n.properties = [] ∧ n.block? = none ∧ P v

/-- The names of the settings that take a text. -/
def textSettings : List String :=
  ["group", "baseDirectory", "releaseArtifact", "stagingArtifact", "stagingArtifactType",
    "stagingArtifactPackaging", "stagingTask"]

/-- A setting of the top level or of a host. -/
def Node.IsSetting (n : Node) : Prop :=
  n.name ∈ textSettings ∧ n.Carries Value.IsText ∨
    n.name = "versionHistorySize" ∧ n.Carries Value.IsSize

/-- A setting of a repository. -/
def Node.IsRepositorySetting (n : Node) : Prop :=
  n.IsSetting ∨ (n.name = "contextUrl" ∨ n.name = "repoKey") ∧ n.Carries Value.IsText

/-- The nodes without a value, which declare entities. -/
def entityNodes (ns : List Node) : List Node :=
  ns.filter fun n => !n.hasValues

/-- The nodes that declare the hosts of a repository. -/
def Node.hostNodes (n : Node) : List Node :=
  entityNodes n.children

/-- The nodes of a level that has entities below it: the nodes with a value are settings, and the
others have names that are not blank and all different. -/
structure IsLevel (IsSetting : Node → Prop) (ns : List Node) : Prop where
  settings : ∀ n ∈ ns, n.hasValues = true → IsSetting n
  named : ∀ n ∈ entityNodes ns, ¬Text.IsBlank n.name
  distinct : ((entityNodes ns).map (·.name)).Nodup

/-- A node that declares a host: there are only settings in it. -/
def Node.IsHost (n : Node) : Prop :=
  ∀ m ∈ n.children, m.IsSetting

/-- A node that declares a repository. -/
structure Node.IsRepository (n : Node) : Prop where
  level : IsLevel Node.IsRepositorySetting n.children
  hosts : ∀ h ∈ n.hostNodes, h.IsHost

/-! ## Declarations -/

namespace Declaration

/-- The nodes of all blocks together. -/
def nodes (d : Declaration) : List Node :=
  d.blocks.flatMap (·.children)

/-- The nodes that declare repositories. -/
def repositoryNodes (d : Declaration) : List Node :=
  entityNodes d.nodes

/-- The declarations that can be resolved with some resources. The resources are needed as soon as
there is a host. -/
structure IsAccepted (d : Declaration) (s : ResourceSource) : Prop where
  blocks : ∀ b ∈ d.blocks, b.hasValues = false
  level : IsLevel Node.IsSetting d.nodes
  repositories : ∀ r ∈ d.repositoryNodes, r.IsRepository
  resources : (∃ r ∈ d.repositoryNodes, r.hostNodes ≠ []) →
    ∀ name ∈ neededResources, s.contains name = true

end Declaration

/-! ## Entities -/

theorem mem_entityNodes {ns : List Node} {n : Node} :
    n ∈ entityNodes ns ↔ n ∈ ns ∧ n.hasValues = false := by
  simp [entityNodes]

/-- A node that carries a value has values. -/
theorem Node.Carries.hasValues {n : Node} {P : Value → Prop} (h : n.Carries P) :
    n.hasValues = true := by
  obtain ⟨v, hv, -⟩ := h
  simp [Node.hasValues, hv]

end TriggerPlan
