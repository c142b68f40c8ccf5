import TriggerPlan.Proofs.Declaration.Language

/-!
# Places of nodes

Where a node can stand in a declaration, with the path by which messages name the place, and what is
asked of a node at its place whatever stands beside it. In an accepted declaration every node is
acceptable at its place (`IsAccepted.accepts`).
-/

namespace TriggerPlan

/-! ## Nodes of a level -/

/-- A level with entities below it has room for the node: it is a setting, or it has no value and a
name that is not blank. -/
def Node.Fits (IsSetting : Node → Prop) (n : Node) : Prop :=
  if n.hasValues then IsSetting n else ¬Text.IsBlank n.name

variable {IsSetting : Node → Prop} {n : Node} {ns : List Node}

theorem Node.fits_iff_isSetting (h : n.hasValues = true) : n.Fits IsSetting ↔ IsSetting n := by
  rw [Fits, if_pos h]

theorem Node.fits_iff_isBlank (h : n.hasValues = false) :
    n.Fits IsSetting ↔ ¬Text.IsBlank n.name := by
  rw [Fits, h, if_neg Bool.false_ne_true]

theorem Node.not_fits_of_isBlank (h : n.hasValues = false) (hblank : Text.IsBlank n.name) :
    ¬n.Fits IsSetting := by
  rw [fits_iff_isBlank h]
  exact fun hnamed => hnamed hblank

theorem IsLevel.fits (h : IsLevel IsSetting ns) (hn : n ∈ ns) : n.Fits IsSetting := by
  cases hvalues : n.hasValues with
  | true => exact (Node.fits_iff_isSetting hvalues).2 (h.settings n hn hvalues)
  | false =>
    exact (Node.fits_iff_isBlank hvalues).2 (h.named n (mem_entityNodes.2 ⟨hn, hvalues⟩))

/-! ## Places -/

/-- The places of nodes in a declaration. -/
inductive Place where
  /-- A block itself. -/
  | block
  /-- Inside a block. The nodes of all blocks are taken together. -/
  | root
  /-- Inside a node that declares a repository. -/
  | repository
  /-- Inside a node that declares a host of a repository. -/
  | host
  deriving DecidableEq, Repr

/-- What a place asks of a node by itself. -/
def Place.Accepts : Place → Node → Prop
  | block, n => n.hasValues = false
  | root, n => n.Fits Node.IsSetting
  | repository, n => n.Fits Node.IsRepositorySetting
  | host, n => n.IsSetting

namespace Declaration

/-- The declaration has the node at that place, which messages name by that path. -/
inductive HasNode (d : Declaration) : Place → String → Node → Prop
  | block {n : Node} (hn : n ∈ d.blocks) : HasNode d .block "triggers" n
  | root {n : Node} (hn : n ∈ d.nodes) : HasNode d .root "triggers" n
  | repository {r n : Node} (hr : r ∈ d.repositoryNodes) (hn : n ∈ r.children) :
    HasNode d .repository ("triggers/" ++ r.name) n
  | host {r h n : Node} (hr : r ∈ d.repositoryNodes) (hh : h ∈ r.hostNodes)
    (hn : n ∈ h.children) : HasNode d .host ("triggers/" ++ r.name ++ "/" ++ h.name) n

/-- In an accepted declaration every node is acceptable at its place. -/
theorem IsAccepted.accepts {d : Declaration} {s : ResourceSource} (hd : d.IsAccepted s) {p : Place}
    {path : String} (hn : d.HasNode p path n) : p.Accepts n := by
  cases hn with
  | block hn => exact hd.blocks n hn
  | root hn => exact hd.level.fits hn
  | repository hr hn => exact (hd.repositories _ hr).level.fits hn
  | host hr hh hn => exact (hd.repositories _ hr).hosts _ hh n hn

end Declaration

end TriggerPlan
