import TriggerPlan.Proofs.Declaration.Decidable
import TriggerPlan.Proofs.Declaration.LastValue

/-!
# Declarations with entities deleted

Any of the repositories and hosts of a declaration can be deleted from it: their nodes are left out,
and everything else stays where it is. What is left of an accepted declaration is accepted
(`Declaration.IsAccepted.without`), since no node is judged by its siblings beyond the difference of
their names.
-/

namespace TriggerPlan

/-! ## Sets of entities -/

/-- Some repositories and some hosts, given by their names. The names tell the entities of an
accepted declaration apart, so any set of its entity nodes is of this form. -/
structure EntitySet where
  repositories : String → Bool
  hosts : String → String → Bool

namespace EntitySet

/-- Whether the trigger of a repository for a host goes with the entities of the set: it does if its
host is one of them, or its repository. -/
def takes (s : EntitySet) (repository hostname : String) : Bool :=
  s.repositories repository || s.hosts repository hostname

end EntitySet

/-! ## Deletion -/

/-- The nodes of a level without the entities of some names. Nodes with a value stay. -/
def withoutEntities (gone : String → Bool) (ns : List Node) : List Node :=
  ns.filter fun n => n.hasValues || !gone n.name

/-- The node with its block changed, if it has one. -/
def Node.mapBlock (f : List Node → List Node) (n : Node) : Node :=
  { n with block? := n.block?.map f }

/-- A node of the top level with the hosts of the set deleted from it, if it declares a
repository. -/
def Node.withoutHosts (s : EntitySet) (n : Node) : Node :=
  if n.hasValues then n else n.mapBlock (withoutEntities (s.hosts n.name))

/-- The nodes of the top level with the entities of the set deleted from them. -/
def deleteEntities (s : EntitySet) (ns : List Node) : List Node :=
  (withoutEntities s.repositories ns).map (·.withoutHosts s)

/-- The declaration with the entities of a set deleted from each of its blocks. -/
def Declaration.without (d : Declaration) (s : EntitySet) : Declaration :=
  ⟨d.blocks.map (·.mapBlock (deleteEntities s))⟩

/-! ## Nodes with a changed block -/

namespace Node

@[simp] theorem name_mapBlock (f : List Node → List Node) (n : Node) :
    (n.mapBlock f).name = n.name := rfl

@[simp] theorem hasValues_mapBlock (f : List Node → List Node) (n : Node) :
    (n.mapBlock f).hasValues = n.hasValues := rfl

/-- A change that leaves the empty block alone changes the children. -/
theorem children_mapBlock {f : List Node → List Node} (hf : f [] = []) (n : Node) :
    (n.mapBlock f).children = f n.children := by
  rw [children, children, mapBlock]
  cases n.block? with
  | none => exact hf.symm
  | some ns => rfl

@[simp] theorem name_withoutHosts (s : EntitySet) (n : Node) :
    (n.withoutHosts s).name = n.name := by
  unfold withoutHosts
  split <;> rfl

@[simp] theorem hasValues_withoutHosts (s : EntitySet) (n : Node) :
    (n.withoutHosts s).hasValues = n.hasValues := by
  unfold withoutHosts
  split <;> rfl

/-- Nodes with a value stay as they are. -/
theorem withoutHosts_of_hasValues (s : EntitySet) {n : Node} (h : n.hasValues = true) :
    n.withoutHosts s = n :=
  if_pos h

/-- A repository node loses the hosts of the set. -/
theorem children_withoutHosts (s : EntitySet) {n : Node} (h : n.hasValues = false) :
    (n.withoutHosts s).children = withoutEntities (s.hosts n.name) n.children := by
  rw [withoutHosts, h, if_neg Bool.false_ne_true]
  exact children_mapBlock rfl n

end Node

/-! ## Levels without some entities -/

section Level

variable {gone : String → Bool} {ns : List Node}

theorem mem_withoutEntities {n : Node} :
    n ∈ withoutEntities gone ns ↔ n ∈ ns ∧ (n.hasValues = true ∨ gone n.name = false) := by
  simp [withoutEntities]

/-- The entities that are left. -/
theorem entityNodes_withoutEntities :
    entityNodes (withoutEntities gone ns) = (entityNodes ns).filter fun n => !gone n.name := by
  rw [entityNodes, entityNodes, withoutEntities, List.filter_filter, List.filter_filter]
  refine List.filter_congr fun n _ => ?_
  cases n.hasValues <;> simp

/-- No setting is lost. -/
theorem filter_sets_withoutEntities (name : String) :
    (withoutEntities gone ns).filter (·.sets name) = ns.filter (·.sets name) := by
  rw [withoutEntities, List.filter_filter]
  refine List.filter_congr fun n _ => ?_
  unfold Node.sets
  cases n.hasValues <;> simp

/-- A level without some of its entities is one as before. -/
theorem IsLevel.withoutEntities {IsSetting : Node → Prop} (h : IsLevel IsSetting ns)
    (gone : String → Bool) : IsLevel IsSetting (withoutEntities gone ns) where
  settings n hn := h.settings n (mem_withoutEntities.1 hn).1
  named n hn := by
    rw [entityNodes_withoutEntities] at hn
    exact h.named n (List.mem_of_mem_filter hn)
  distinct := by
    rw [entityNodes_withoutEntities]
    exact h.distinct.sublist (List.filter_sublist.map _)

/-- A change to nodes that keeps their values changes the entities alike. -/
theorem entityNodes_map {f : Node → Node} (hvalues : ∀ n, (f n).hasValues = n.hasValues)
    (ns : List Node) : entityNodes (ns.map f) = (entityNodes ns).map f := by
  rw [entityNodes, entityNodes, List.filter_map]
  refine congrArg (List.map f) (List.filter_congr fun n _ => ?_)
  rw [Function.comp_apply, hvalues]

/-- A level stays one when the blocks of its entities change. -/
theorem IsLevel.map {IsSetting : Node → Prop} (h : IsLevel IsSetting ns) {f : Node → Node}
    (hname : ∀ n, (f n).name = n.name) (hvalues : ∀ n, (f n).hasValues = n.hasValues)
    (hsetting : ∀ n, n.hasValues = true → f n = n) : IsLevel IsSetting (ns.map f) := by
  have hentities : entityNodes (ns.map f) = (entityNodes ns).map f := entityNodes_map hvalues ns
  refine ⟨?_, ?_, ?_⟩
  · intro m hm hm'
    obtain ⟨n, hn, rfl⟩ := List.mem_map.1 hm
    rw [hvalues] at hm'
    rw [hsetting n hm']
    exact h.settings n hn hm'
  · intro m hm
    rw [hentities] at hm
    obtain ⟨n, hn, rfl⟩ := List.mem_map.1 hm
    rw [hname]
    exact h.named n hn
  · have hcomp : Node.name ∘ f = Node.name := funext hname
    rw [hentities, List.map_map, hcomp]
    exact h.distinct

end Level

/-! ## What is left of a declaration -/

/-- The hosts that are left in a repository node. -/
theorem Node.hostNodes_withoutHosts (s : EntitySet) {r : Node} (hr : r.hasValues = false) :
    (r.withoutHosts s).hostNodes = r.hostNodes.filter fun h => !s.hosts r.name h.name := by
  rw [hostNodes, children_withoutHosts s hr, entityNodes_withoutEntities, ← hostNodes]

/-- The repositories that are left on the top level. -/
theorem entityNodes_deleteEntities (s : EntitySet) (ns : List Node) :
    entityNodes (deleteEntities s ns) =
      ((entityNodes ns).filter fun r => !s.repositories r.name).map (·.withoutHosts s) := by
  rw [← entityNodes_withoutEntities]
  exact entityNodes_map (Node.hasValues_withoutHosts s) _

/-- No setting of the top level is lost. -/
theorem filter_sets_deleteEntities (s : EntitySet) (name : String) (ns : List Node) :
    (deleteEntities s ns).filter (·.sets name) = ns.filter (·.sets name) := by
  rw [deleteEntities, List.filter_map]
  have hsets : (Node.sets name) ∘ (Node.withoutHosts s) = Node.sets name := by
    funext n
    rw [Function.comp_apply, Node.sets, Node.sets, Node.hasValues_withoutHosts,
      Node.name_withoutHosts]
  rw [hsets, filter_sets_withoutEntities]
  -- a node that sets something has a value, so it was not touched
  refine (List.map_congr_left fun n hn => ?_).trans (List.map_id _)
  exact Node.withoutHosts_of_hasValues s (Node.sets_iff.1 (List.mem_filter.1 hn).2).1

namespace Declaration

variable {d : Declaration}

/-- The nodes that are left on the top level. -/
theorem nodes_without (d : Declaration) (s : EntitySet) :
    (d.without s).nodes = deleteEntities s d.nodes := by
  have hblock (b : Node) :
      (b.mapBlock (deleteEntities s)).children = deleteEntities s b.children :=
    Node.children_mapBlock rfl b
  rw [nodes, without, List.flatMap_map, nodes, deleteEntities, withoutEntities,
    List.filter_flatMap, List.map_flatMap]
  exact congrArg (d.blocks.flatMap ·) (funext hblock)

/-- The repositories that are left in a declaration. -/
theorem repositoryNodes_without (d : Declaration) (s : EntitySet) :
    (d.without s).repositoryNodes =
      (d.repositoryNodes.filter fun r => !s.repositories r.name).map (·.withoutHosts s) := by
  rw [repositoryNodes, nodes_without, entityNodes_deleteEntities, ← repositoryNodes]

end Declaration

/-! ## Acceptance -/

/-- A repository node without some of its hosts declares a repository as before. -/
theorem Node.IsRepository.withoutHosts {r : Node} (h : r.IsRepository)
    (hr : r.hasValues = false) (s : EntitySet) : (r.withoutHosts s).IsRepository where
  level := by
    rw [children_withoutHosts s hr]
    exact h.level.withoutEntities _
  hosts n hn := by
    rw [hostNodes_withoutHosts s hr] at hn
    exact h.hosts n (List.mem_of_mem_filter hn)

/-- What is left of an accepted declaration is accepted. -/
theorem Declaration.IsAccepted.without {d : Declaration} {resources : ResourceSource}
    (h : d.IsAccepted resources) (s : EntitySet) : (d.without s).IsAccepted resources := by
  -- each repository that is left was one before, with all the hosts it has now
  have hleft : ∀ r' ∈ (d.without s).repositoryNodes,
      ∃ r ∈ d.repositoryNodes, r.hasValues = false ∧ r' = r.withoutHosts s := by
    intro r' hr'
    rw [repositoryNodes_without] at hr'
    obtain ⟨r, hr, rfl⟩ := List.mem_map.1 hr'
    have hmem : r ∈ d.repositoryNodes := List.mem_of_mem_filter hr
    exact ⟨r, hmem, (mem_entityNodes.1 hmem).2, rfl⟩
  refine ⟨?_, ?_, ?_, ?_⟩
  · intro b' hb'
    obtain ⟨b, hb, rfl⟩ := List.mem_map.1 hb'
    exact h.blocks b hb
  · rw [nodes_without]
    exact (h.level.withoutEntities s.repositories).map (Node.name_withoutHosts s)
      (Node.hasValues_withoutHosts s) fun n hn => Node.withoutHosts_of_hasValues s hn
  · intro r' hr'
    obtain ⟨r, hr, hvalues, rfl⟩ := hleft r' hr'
    exact (h.repositories r hr).withoutHosts hvalues s
  · rintro ⟨r', hr', hhosts⟩
    obtain ⟨r, hr, hvalues, rfl⟩ := hleft r' hr'
    rw [Node.hostNodes_withoutHosts s hvalues] at hhosts
    refine h.resources ⟨r, hr, ?_⟩
    rintro hnone
    rw [hnone] at hhosts
    exact hhosts rfl

end TriggerPlan
