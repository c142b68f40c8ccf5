import TriggerPlan.Proofs.FileTree.Marking
import TriggerPlan.Proofs.Resources
import TriggerPlan.Proofs.SortedMap

/-!
# Materialization as demands

To materialize resources is to settle demands, directories and files for the copies, and then to mark
what some paths lead to (`materialize_yields`). Where only copies are marked, the marks are demands
too (`materialize_settles`). The resources that triggers need have different base names. So the base
name of a place tells which bytes are demanded there, whatever directories the resources are copied
into (`contentsFrom_materializeDemands`).
-/

namespace TriggerPlan

/-! ## Changes in a row -/

namespace FileSystem

open FileTree (success)

variable (fs : FileSystem) {t u : FileTree}

/-- Changes succeed one after the other. -/
theorem success_changeAll (t : FileTree) (cs : List (Except Error FileChange)) :
    success (fs.changeAll t cs) = cs.foldlM (fun t c => success (fs.changeAll t [c])) t := by
  induction cs generalizing t with
  | nil => rfl
  | cons c cs ih =>
    rw [List.foldlM_cons]
    cases c with
    | error e => rfl
    | ok c =>
      rw [changeAll, changeAll]
      rcases fs.change t c with ⟨u, e | ⟨⟨⟩⟩⟩
      · rfl
      · exact ih u

theorem success_changeAll_append (t : FileTree) (cs cs' : List (Except Error FileChange)) :
    success (fs.changeAll t (cs ++ cs')) =
      success (fs.changeAll t cs) >>= fun t => success (fs.changeAll t cs') := by
  rw [success_changeAll, List.foldlM_append, ← success_changeAll]
  exact bind_congr fun v => (fs.success_changeAll v cs').symm

theorem success_changeAll_singleton_iff {c : FileChange} :
    success (fs.changeAll t [.ok c]) = .ok u ↔ success (fs.change t c) = .ok u := by
  rw [changeAll]
  rcases fs.change t c with ⟨v, e | ⟨⟨⟩⟩⟩ <;> simp [success, changeAll]

/-- Changes are followed by others, unless one of them fails. -/
theorem changeAll_append (t : FileTree) (cs cs' : List (Except Error FileChange)) :
    fs.changeAll t (cs ++ cs') =
      match fs.changeAll t cs with
      | (u, .ok ()) => fs.changeAll u cs'
      | failed => failed := by
  induction cs generalizing t with
  | nil => rfl
  | cons c cs ih =>
    rw [List.cons_append]
    cases c with
    | error e => rfl
    | ok c =>
      rw [changeAll, changeAll]
      rcases fs.change t c with ⟨u, e | ⟨⟨⟩⟩⟩
      · rfl
      · exact ih u

variable {fs}

theorem changeAll_append_of_ok {cs : List (Except Error FileChange)}
    (h : fs.changeAll t cs = (u, .ok ())) (cs' : List (Except Error FileChange)) :
    fs.changeAll t (cs ++ cs') = fs.changeAll u cs' := by
  rw [changeAll_append, h]

theorem changeAll_append_of_error {cs : List (Except Error FileChange)} {e : Error}
    (h : fs.changeAll t cs = (u, .error e)) (cs' : List (Except Error FileChange)) :
    fs.changeAll t (cs ++ cs') = (u, .error e) := by
  rw [changeAll_append, h]

end FileSystem

/-! ## The changes of a materialization -/

/-- The change that copies a resource into a directory, or the error that reports it as missing. -/
def copyChange (source : ResourceSource) (owner : String) (destination : Path) (r : String) :
    Except Error FileChange :=
  match source.load r with
  | some content => .ok (.copy owner r (destination.child r) content)
  | none => .error (.resourceMissing owner r)

/-- The change that marks the copy of a resource in a directory. -/
def markChange (owner : String) (destination : Path) (r : String) : Except Error FileChange :=
  .ok (.markExecutable owner r (destination.child r))

theorem materializeChanges_eq (source : ResourceSource) (owner : String) (resources : List String)
    (destination : Path) (executables : List String) :
    materializeChanges source owner resources destination executables =
      resources.map (copyChange source owner destination) ++
        executables.map (markChange owner destination) :=
  rfl

/-! ## Resources of triggers -/

theorem namesFile_of_mem_neededResources :
    ∀ r ∈ neededResources, FileTree.NamesFile ⟨r⟩ := by
  have h : ∀ r ∈ neededResources,
      (Path.mk r).steps ≠ [] ∧ FileTree.endsAtDirectory ⟨r⟩ = false := by
    decide +kernel
  exact fun r hr => ⟨(h r hr).1, (h r hr).2⟩

/-- What is joined to a path keeps its end. -/
theorem Path.endsInSlash_join (p : Path) {q : Path} (hne : q.text ≠ "") :
    (p.join q).endsInSlash = q.endsInSlash := by
  have hlist : q.text.toList ≠ [] := fun h => hne (String.toList_eq_nil_iff.1 h)
  rw [join]
  split
  · rfl
  · split <;>
      rw [endsInSlash, endsInSlash, String.toList_append, List.getLast?_append_of_ne_nil _ hlist]

namespace FileTree

open FileSystem (permissive)

variable {t : FileTree} {r : String} (destination : Path)

theorem getLast?_steps_child (hr : r ∈ neededResources) :
    (destination.child r).steps.getLast? = (Path.mk r).steps.getLast? := by
  rw [Path.child, Path.steps_join _ (isAbsolute_of_mem_neededResources r hr),
    List.getLast?_append_of_ne_nil _ (namesFile_of_mem_neededResources r hr).steps_ne_nil]

/-- In any directory a resource has the path of a file. -/
theorem namesFile_child (hr : r ∈ neededResources) : NamesFile (destination.child r) := by
  have hfile := namesFile_of_mem_neededResources r hr
  have hrelative := isAbsolute_of_mem_neededResources r hr
  have hne : r ≠ "" := by
    rintro rfl
    exact hfile.steps_ne_nil rfl
  constructor
  · rw [Path.child, Path.steps_join _ hrelative]
    exact List.append_ne_nil_of_right_ne_nil _ hfile.steps_ne_nil
  · rw [endsAtDirectory, getLast?_steps_child destination hr, Path.child,
      Path.endsInSlash_join _ hne]
    exact hfile.not_endsAtDirectory

/-- The bytes that are copied to a place: those of the resource with its base name. -/
def contentAt (source : ResourceSource) (place : List String) : ByteArray :=
  ((neededResources.find? fun r => (Path.mk r).steps.getLast? = place.getLast?).map
    source.bytes).getD .empty

theorem contentAt_placeOn_child (source : ResourceSource) (hr : r ∈ neededResources) :
    contentAt source (placeOn (destination.child r)) = source.bytes r := by
  have hfind : (neededResources.find? fun r' =>
      (Path.mk r').steps.getLast? = (Path.mk r).steps.getLast?) = some r :=
    find?_key_eq_some nodup_baseNames hr
  rw [contentAt, (namesFile_child destination hr).getLast?_placeOn,
    getLast?_steps_child destination hr, hfind]
  rfl

/-! ## Materialization -/

variable (source : ResourceSource) (resources executables : List String)

/-- The demands of copying resources into a directory. -/
def copyDemands : List Demand :=
  resources.flatMap fun r => writeDemands (destination.child r) (source.bytes r)

/-- The demands of marking the copies of resources in a directory. -/
def markDemands : List Demand :=
  executables.map fun r => ⟨placeOn (destination.child r), .executable⟩

/-- The demands of materializing resources in a directory, some of them to be marked. -/
def materializeDemands : List Demand :=
  copyDemands destination source resources ++ markDemands destination executables

variable {destination source resources executables}

theorem writeDemands_subset {r : String} (hr : r ∈ resources) :
    writeDemands (destination.child r) (source.bytes r) ⊆
      materializeDemands destination source resources executables :=
  fun _ hd => List.mem_append_left _ (List.mem_flatMap.2 ⟨r, hr, hd⟩)

/-- A file is demanded nowhere but where a resource is copied to. -/
theorem exists_of_mem_materializeDemands (hexecutables : executables ⊆ resources) {d : Demand}
    (hd : d ∈ materializeDemands destination source resources executables)
    (hwanted : d.wanted ≠ .directory) :
    ∃ r ∈ resources, d.place = placeOn (destination.child r) := by
  rcases List.mem_append.1 hd with hd | hd
  · obtain ⟨r, hr, hd⟩ := List.mem_flatMap.1 hd
    rcases List.mem_append.1 hd with hd | hd
    · exact absurd (mem_directoryDemands.1 hd).2.2 hwanted
    · obtain rfl := List.mem_singleton.1 hd
      exact ⟨r, hr, rfl⟩
  · obtain ⟨r, hr, rfl⟩ := List.mem_map.1 hd
    exact ⟨r, hexecutables hr, rfl⟩

/-- The contents that are demanded are told by the base names of the places. -/
theorem contentsFrom_materializeDemands (hresources : resources ⊆ neededResources) :
    ContentsFrom (contentAt source)
      (materializeDemands destination source resources executables) := by
  rintro d hd content hwanted
  rcases List.mem_append.1 hd with hd | hd
  · obtain ⟨r, hr, hd⟩ := List.mem_flatMap.1 hd
    rcases List.mem_append.1 hd with hd | hd
    · rw [(mem_directoryDemands.1 hd).2.2] at hwanted
      exact Wanted.noConfusion hwanted
    · obtain rfl := List.mem_singleton.1 hd
      rw [contentAt_placeOn_child destination source (hresources hr)]
      exact (Wanted.file.inj hwanted).symm
  · obtain ⟨r, -, rfl⟩ := List.mem_map.1 hd
    exact Wanted.noConfusion hwanted

/-- A resource is copied if the source has it, and if its target is the path of a file. -/
theorem copyChange_settles (source : ResourceSource) (owner : String) (destination : Path)
    (r : String) :
    Settles (fun t => success (permissive.changeAll t [copyChange source owner destination r]))
      (source.contains r = true ∧ NamesFile (destination.child r))
      (writeDemands (destination.child r) (source.bytes r)) := by
  rw [ResourceSource.contains, ResourceSource.bytes, copyChange]
  cases source.load r with
  | none => exact fun t => .error _ _ fun h => Bool.noConfusion h.1.1
  | some content =>
    have hcopy : Settles (fun t => success (permissive.changeAll t [.ok (.copy owner r _ content)]))
        (NamesFile (destination.child r)) (writeDemands (destination.child r) content) :=
      (copy_settles owner r (destination.child r) content).of_iff
        fun t u => permissive.success_changeAll_singleton_iff
    exact fun t => (hcopy t).congr (by simp) fun _ => rfl

/-- Resources are copied if each of them can be. -/
theorem copies_settle (source : ResourceSource) (destination : Path) (owner : String)
    (resources : List String) :
    Settles
      (fun t => success (permissive.changeAll t
        (resources.map (copyChange source owner destination))))
      (∀ r ∈ resources, source.contains r = true ∧ NamesFile (destination.child r))
      (copyDemands destination source resources) := by
  have hall := Settles.foldlM fun r (_ : r ∈ resources) =>
    copyChange_settles source owner destination r
  intro t
  beta_reduce
  rw [permissive.success_changeAll, List.foldlM_map]
  exact hall t

/-- What paths lead to is marked, one after the other. No mark keeps another from being made. -/
theorem marks_yield (owner : String) (destination : Path) (executables : List String)
    (t : FileTree) :
    Yields (success (permissive.changeAll t (executables.map (markChange owner destination))))
      (∀ r ∈ executables, t.Finds (destination.child r))
      (t.markAll (executables.map fun r => placeOn (destination.child r))) := by
  induction executables generalizing t with
  | nil => exact .ok t fun r hr => absurd hr List.not_mem_nil
  | cons r rs ih =>
    have hmark : Yields (success (permissive.changeAll t [markChange owner destination r]))
        (t.Finds (destination.child r)) (t.mark (placeOn (destination.child r))) := by
      intro u
      have hperform : permissive.perform t (.setMode (destination.child r) executableMode) =
          t.setMode (destination.child r) executableMode := rfl
      rw [markChange, permissive.success_changeAll_singleton_iff, ← setMode_yields,
        FileSystem.change, hperform]
      cases t.setMode (destination.child r) executableMode <;> simp [success]
    rw [List.map_cons, List.map_cons, ← List.singleton_append,
      permissive.success_changeAll_append]
    refine (hmark.bind (ih _)).congr ?_ fun _ => rfl
    rw [List.forall_mem_cons]
    simp only [← (t.sameButModes_mark (placeOn (destination.child r))).finds_iff]

/-- Materialization copies the resources, and then marks what the paths of some of them lead to. -/
theorem materialize_yields (source : ResourceSource) (owner : String) (resources : List String)
    (destination : Path) (executables : List String) (t : FileTree) :
    Yields (success (t.materialize source owner resources destination executables))
      (((∀ r ∈ resources, source.contains r = true ∧ NamesFile (destination.child r)) ∧
          t.CanSettle (copyDemands destination source resources)) ∧
        ∀ r ∈ executables,
          (t.settle (copyDemands destination source resources)).Finds (destination.child r))
      ((t.settle (copyDemands destination source resources)).markAll
        (executables.map fun r => placeOn (destination.child r))) := by
  have hmarks := marks_yield owner destination executables
    (t.settle (copyDemands destination source resources))
  have hboth := (copies_settle source destination owner resources t).bind
    (f := fun t => success (permissive.changeAll t
      (executables.map (markChange owner destination)))) hmarks
  rw [materialize, FileSystem.materialize, materializeChanges_eq,
    permissive.success_changeAll_append]
  exact hboth

/-- Marks that come after the copies of their resources cannot fail, and are demands. -/
theorem marks_settle (t : FileTree) (ds : List Demand) (hcan : t.CanSettle ds)
    (hexecutables : ∀ r ∈ executables, r ∈ neededResources ∧
      writeDemands (destination.child r) (source.bytes r) ⊆ ds) :
    (∀ r ∈ executables, (t.settle ds).Finds (destination.child r)) ∧
    (t.settle ds).markAll (executables.map fun r => placeOn (destination.child r)) =
      t.settle (ds ++ markDemands destination executables) ∧
    t.CanSettle (ds ++ markDemands destination executables) := by
  induction executables generalizing ds with
  | nil =>
    rw [markDemands, List.map_nil, List.map_nil, List.append_nil]
    exact ⟨fun r hr => absurd hr List.not_mem_nil, rfl, hcan⟩
  | cons r rs ih =>
    rw [List.forall_mem_cons] at hexecutables
    obtain ⟨⟨hr, hsub⟩, hrest⟩ := hexecutables
    obtain ⟨hfinds, hmark, hcan'⟩ := settle_mark (namesFile_child destination hr) hcan hsub
    have hlater := ih _ hcan' fun r' hr' => ⟨(hrest r' hr').1,
      List.Subset.trans (hrest r' hr').2 (List.subset_append_left _ _)⟩
    rw [List.append_assoc, List.singleton_append, ← hmark] at hlater
    simp only [← ((t.settle ds).sameButModes_mark _).finds_iff] at hlater
    rw [markDemands, List.map_cons, List.map_cons, List.forall_mem_cons]
    exact ⟨⟨hfinds, hlater.1⟩, hlater.2⟩

/-- Materialization settles its demands, if the source has the resources. -/
theorem materialize_settles (owner : String) (hresources : resources ⊆ neededResources)
    (hexecutables : executables ⊆ resources) :
    Settles
      (fun t => success (t.materialize source owner resources destination executables))
      (∀ r ∈ resources, source.contains r = true)
      (materializeDemands destination source resources executables) := by
  intro t
  have hmarks (hcan : t.CanSettle (copyDemands destination source resources)) :=
    marks_settle t _ hcan fun r hr => ⟨hresources (hexecutables hr),
      fun d hd => List.mem_flatMap.2 ⟨r, hexecutables hr, hd⟩⟩
  refine (materialize_yields source owner resources destination executables t).congr ?_
    fun h => (hmarks h.1.2).2.1
  constructor
  · rintro ⟨⟨hsource, hcan⟩, -⟩
    exact ⟨fun r hr => (hsource r hr).1, (hmarks hcan).2.2⟩
  · rintro ⟨hsource, hcan⟩
    have hcopies : t.CanSettle (copyDemands destination source resources) := hcan.of_append
    exact ⟨⟨fun r hr => ⟨hsource r hr, namesFile_child destination (hresources hr)⟩, hcopies⟩,
      (hmarks hcopies).1⟩

end FileTree

end TriggerPlan
