import TriggerPlan.Materialize
import TriggerPlan.Proofs.FileTree.Demand
import TriggerPlan.Proofs.FileTree.Way
import TriggerPlan.Proofs.Outcome
import TriggerPlan.Proofs.Path

/-!
# Changes to files as demands

A change to files succeeds exactly if some demands can be settled, and then it settles them: the
copy of a resource demands directories on the way to its target, and a file there (`copy_settles`).
-/

namespace TriggerPlan.FileTree

variable {ε : Type} {t u : FileTree} {ds ds' : List Demand} {names : List String}

/-! ## Operations that settle demands -/

/-- The tree that a run leaves, if it succeeds. -/
def success : FileTree × Except ε Unit → Except ε FileTree
  | (t, .ok ()) => .ok t
  | (_, .error e) => .error e

theorem success_eq_ok_iff {run : FileTree × Except ε Unit} :
    success run = .ok t ↔ run = (t, .ok ()) := by
  rcases run with ⟨u, e | ⟨⟨⟩⟩⟩ <;> simp [success]

theorem exists_eq_ok {run : FileTree × Except ε Unit} (h : run.2 = .ok ()) :
    ∃ t, run = (t, .ok ()) :=
  ⟨run.1, Prod.ext rfl h⟩

/-- An operation succeeds exactly if `P` holds and the demands can be settled, and then settles
them. -/
def Settles (f : FileTree → Except ε FileTree) (P : Prop) (ds : List Demand) : Prop :=
  ∀ t, Yields (f t) (P ∧ t.CanSettle ds) (t.settle ds)

/-- Doing nothing settles no demands. -/
theorem settles_nil : Settles (Except.ok : FileTree → Except ε FileTree) True [] :=
  fun t => .ok t ⟨trivial, t.canSettle_nil⟩

/-- Of two operations in a row, each settles its demands. -/
theorem Settles.bind {f g : FileTree → Except ε FileTree} {P Q : Prop} (h : Settles f P ds)
    (h' : Settles g Q ds') : Settles (fun t => f t >>= g) (P ∧ Q) (ds ++ ds') := by
  intro t
  refine ((h t).bind (h' (t.settle ds))).congr ?_ fun _ => (t.settle_append ds ds').symm
  rw [canSettle_append, and_and_and_comm]

/-- Operations for the elements of a list, one after the other, settle all of their demands. -/
theorem Settles.foldlM {α : Type} {f : α → FileTree → Except ε FileTree} {P : α → Prop}
    {demands : α → List Demand} {l : List α} (h : ∀ a ∈ l, Settles (f a) (P a) (demands a)) :
    Settles (fun t => l.foldlM (fun t a => f a t) t) (∀ a ∈ l, P a) (l.flatMap demands) := by
  induction l with
  | nil => exact fun t => (settles_nil t).congr (by simp) fun _ => rfl
  | cons a l ih =>
    rw [List.forall_mem_cons] at h
    intro t
    beta_reduce
    rw [List.foldlM_cons, List.flatMap_cons, List.forall_mem_cons]
    exact h.1.bind (ih h.2) t

/-- All that counts of an operation is when it succeeds and with which tree. -/
theorem Settles.of_iff {ε' : Type} {f : FileTree → Except ε FileTree}
    {g : FileTree → Except ε' FileTree} {P : Prop} (h : Settles f P ds)
    (hiff : ∀ t u, g t = .ok u ↔ f t = .ok u) : Settles g P ds :=
  fun t u => (hiff t u).trans (h t u)

/-! ## Directories -/

/-- The demand for a directory; none for the root, which is always one. -/
def directoryDemand (place : List String) : List Demand :=
  if place = [] then [] else [⟨place, .directory⟩]

/-- The demands for directories all the way. -/
def directoryDemands (names : List String) : List Demand :=
  (way names).flatMap directoryDemand

theorem mem_directoryDemand {place : List String} {d : Demand} :
    d ∈ directoryDemand place ↔ place ≠ [] ∧ d = ⟨place, .directory⟩ := by
  rw [directoryDemand]
  split <;> simp_all

theorem mem_directoryDemands {d : Demand} :
    d ∈ directoryDemands names ↔ d.place ∈ way names ∧ d.place ≠ [] ∧ d.wanted = .directory := by
  obtain ⟨place, wanted⟩ := d
  simp only [directoryDemands, List.mem_flatMap, mem_directoryDemand, Demand.mk.injEq]
  constructor
  · rintro ⟨_, hway, hne, rfl, rfl⟩
    exact ⟨hway, hne, rfl⟩
  · rintro ⟨hway, hne, rfl⟩
    exact ⟨place, hway, hne, rfl, rfl⟩

theorem directoryDemands_concat (names : List String) (name : String) :
    directoryDemands (names ++ [name]) =
      directoryDemands names ++ directoryDemand (follow (names ++ [name])) := by
  rw [directoryDemands, way_concat, List.flatMap_append, List.flatMap_singleton]
  rfl

/-- There are directories where they have been demanded. -/
theorem CanSettle.passable (h : t.CanSettle ds) (hsub : directoryDemands names ⊆ ds) :
    (t.settle ds).Passable names := by
  intro place hplace
  by_cases hroot : place = []
  · rw [hroot]
    exact isDirectory_root _
  · have hd : ⟨place, .directory⟩ ∈ ds := hsub (mem_directoryDemands.2 ⟨hplace, hroot, rfl⟩)
    obtain ⟨e, he, hkind⟩ := h.exists_entry hd
    have hdir : e.isDirectory = true := hkind
    simp [isDirectory, he, hdir]

/-- What is a directory already is left as it is. -/
theorem canSettle_directoryDemand_of_isDirectory {place : List String}
    (h : t.isDirectory place = true) :
    t.CanSettle (directoryDemand place) ∧ t.settle (directoryDemand place) = t := by
  rw [directoryDemand]
  split
  · exact ⟨t.canSettle_nil, rfl⟩
  · rename_i hroot
    obtain ⟨mode, hmode⟩ := exists_directory_of_isDirectory h hroot
    constructor
    · rw [canSettle_singleton, hmode, Wanted.allows_some_iff]
      rfl
    · rw [settle_singleton]
      refine ext_get? fun place' => ?_
      rw [get?_fulfil]
      split
      · rename_i hplace
        rw [hplace, hmode]
        rfl
      · rfl

/-- Directories all the way are left as they are. -/
theorem Passable.settled (h : t.Passable names) :
    t.CanSettle (directoryDemands names) ∧ t.settle (directoryDemands names) = t := by
  unfold Passable at h
  rw [directoryDemands]
  generalize way names = places at h
  induction places using List.reverseRecOn with
  | nil => exact ⟨t.canSettle_nil, rfl⟩
  | append_singleton places place ih =>
    rw [List.forall_mem_append, List.forall_mem_singleton] at h
    obtain ⟨hcan, hsettle⟩ := ih h.1
    obtain ⟨hlast, hsettlelast⟩ := canSettle_directoryDemand_of_isDirectory h.2
    rw [List.flatMap_append, List.flatMap_singleton, canSettle_append, settle_append, hsettle]
    exact ⟨⟨hcan, hlast⟩, hsettlelast⟩

/-- Where nothing is, a directory can be made. -/
theorem canSettle_directoryDemand_of_missing {place : List String}
    (h : t.exists? place = false) :
    t.CanSettle (directoryDemand place) ∧
      t.settle (directoryDemand place) = t.put place (.directory executableMode) := by
  rw [exists?, Bool.or_eq_false_iff] at h
  have hroot : place ≠ [] := fun hroot => by simp [hroot] at h
  have hnone : t.get? place = none := by simpa using h.2
  rw [directoryDemand, if_neg hroot]
  constructor
  · rw [canSettle_singleton, hnone]
    exact Wanted.allows_none _
  · rw [settle_singleton, fulfil, hnone]
    rfl

/-- A file is in the way. -/
theorem not_canSettle_directoryDemand_of_file {place : List String}
    (hdir : t.isDirectory place = false) (hexists : t.exists? place = true) :
    ¬t.CanSettle (directoryDemand place) := by
  obtain ⟨hne, mode, content, hfile⟩ := exists_file_of_not_isDirectory hdir hexists
  intro h
  exact Bool.noConfusion (h.allowed _ (mem_directoryDemand.2 ⟨hne, rfl⟩) _ hfile)

theorem not_canSettle_directoryDemands_of_file {place : List String} (hplace : place ∈ way names)
    (hdir : t.isDirectory place = false) (hexists : t.exists? place = true) :
    ¬t.CanSettle (directoryDemands names) := fun h =>
  not_canSettle_directoryDemand_of_file hdir hexists
    (h.of_subset fun _ hd => List.mem_flatMap.2 ⟨place, hplace, hd⟩)

/-- After a way that can be followed, one more directory is made, or found, unless there is a
file. -/
theorem ensureDirectory_of_passable (h : t.Passable names) (name : String) :
    (t.CanSettle (directoryDemand (follow (names ++ [name]))) ∧
      FileSystem.permissive.ensureDirectory t (names ++ [name]) =
        .ok (t.settle (directoryDemand (follow (names ++ [name]))))) ∨
    (¬t.CanSettle (directoryDemand (follow (names ++ [name]))) ∧
      FileSystem.permissive.ensureDirectory t (names ++ [name]) = .error .alreadyExists) := by
  have hwalk := h.walk_eq name
  generalize follow (names ++ [name]) = place at hwalk ⊢
  have hmake : FileSystem.permissive.perform t (.makeDirectory (names ++ [name])) =
      if t.exists? place then .error .alreadyExists
      else .ok (t.put place (.directory executableMode)) := by
    show t.makeDirectory (names ++ [name]) = _
    rw [makeDirectory, hwalk]
    rfl
  cases hexists : t.exists? place with
  | false =>
    obtain ⟨hcan, hsettle⟩ := canSettle_directoryDemand_of_missing hexists
    rw [hexists, if_neg Bool.false_ne_true, ← hsettle] at hmake
    refine .inl ⟨hcan, ?_⟩
    rw [FileSystem.ensureDirectory, hmake]
  | true =>
    rw [hexists, if_pos rfl] at hmake
    have hensure : FileSystem.permissive.ensureDirectory t (names ++ [name]) =
        if t.isDirectory place then .ok t else .error .alreadyExists := by
      rw [FileSystem.ensureDirectory, hmake, hwalk]
    cases hdir : t.isDirectory place with
    | true =>
      obtain ⟨hcan, hsettle⟩ := canSettle_directoryDemand_of_isDirectory hdir
      refine .inl ⟨hcan, ?_⟩
      rw [hensure, hdir, hsettle, if_pos rfl]
    | false =>
      refine .inr ⟨not_canSettle_directoryDemand_of_file hdir hexists, ?_⟩
      rw [hensure, hdir, if_neg Bool.false_ne_true]

/-- A walk that is stopped stops the making of a directory. -/
theorem ensureDirectory_of_walk_error {e : FileError} (h : t.walk [] names = .error e) :
    FileSystem.permissive.ensureDirectory t names = .error e := by
  have hmake : FileSystem.permissive.perform t (.makeDirectory names) = .error e := by
    show t.makeDirectory names = _
    rw [makeDirectory, h]
    rfl
  rw [FileSystem.ensureDirectory, hmake, h]
  cases e <;> rfl

/-- The longest way is tried first, and again after the shorter ones. All that matters is whether
the directories on the way can be had one after the other. -/
theorem createReversed_yields (t : FileTree) (names : List String) :
    Yields (success (FileSystem.permissive.createReversed t names))
      (t.CanSettle (directoryDemands names.reverse)) (t.settle (directoryDemands names.reverse)) := by
  induction names with
  | nil => exact .ok t t.canSettle_nil
  | cons name above ih =>
    rw [List.reverse_cons, directoryDemands_concat, canSettle_append, settle_append]
    unfold FileSystem.createReversed
    rw [List.reverse_cons]
    dsimp only
    rcases t.walk_cases above.reverse name with ⟨hpass, -⟩ | ⟨place, hplace, hdir, hexists, hwalk⟩ |
      ⟨place, hplace, hexists, hwalk⟩
    · obtain ⟨hcan, hsettle⟩ := hpass.settled
      rw [hsettle]
      rcases ensureDirectory_of_passable hpass name with ⟨hlast, hensure⟩ | ⟨hlast, hensure⟩
      · rw [hensure]
        exact .ok _ ⟨hcan, hlast⟩
      · rw [hensure]
        exact .error _ _ fun h => hlast h.2
    · rw [ensureDirectory_of_walk_error hwalk]
      exact .error _ _ fun h => not_canSettle_directoryDemands_of_file hplace hdir hexists h.1
    · rw [ensureDirectory_of_walk_error hwalk]
      dsimp only
      -- the way before the last name, and then the last name once more
      rcases hrun : FileSystem.permissive.createReversed t above with ⟨u, e | ⟨⟨⟩⟩⟩
      all_goals rw [hrun] at ih
      · exact .error _ _ fun h => by simpa [success] using (ih _).2 ⟨h.1, rfl⟩
      · obtain ⟨hcan, rfl⟩ := (ih u).1 rfl
        dsimp only
        have hpass := hcan.passable (List.Subset.refl (directoryDemands above.reverse))
        rcases ensureDirectory_of_passable hpass name with ⟨hlast, hensure⟩ | ⟨hlast, hensure⟩
        · rw [hensure]
          exact .ok _ ⟨hcan, hlast⟩
        · rw [hensure]
          exact .error _ _ fun h => hlast h.2

/-- A directory is made with those on the way to it. -/
theorem createDirectories_yields (t : FileTree) (names : List String) :
    Yields (success (t.createDirectories names)) (t.CanSettle (directoryDemands names))
      (t.settle (directoryDemands names)) := by
  have h := t.createReversed_yields names.reverse
  rwa [List.reverse_reverse] at h

/-! ## Files -/

/-- A path that can be that of a file: it ends in a name, other than `.` and `..`. -/
structure NamesFile (p : Path) : Prop where
  steps_ne_nil : p.steps ≠ []
  not_endsAtDirectory : endsAtDirectory p = false

/-- The place that a path leads to if it can be followed. -/
def placeOn (p : Path) : List String :=
  follow p.steps

theorem eq_placeOn_of_placeOf_eq_ok {p : Path} {place : List String}
    (h : t.placeOf p = .ok place) : place = placeOn p := by
  rw [placeOf] at h
  split at h
  · exact absurd h (by simp)
  · exact eq_foldl_of_walk_eq_ok h

/-- The demands of a file with its directory. -/
def writeDemands (p : Path) (content : ByteArray) : List Demand :=
  directoryDemands (parentSteps p) ++ [⟨placeOn p, .file content⟩]

variable {p : Path}

namespace NamesFile

theorem exists_split (h : NamesFile p) :
    ∃ names base, p.steps = names ++ [base] ∧ base ≠ "." ∧ base ≠ ".." := by
  obtain ⟨names, base, hsteps⟩ := List.eq_nil_or_concat' p.steps |>.resolve_left h.steps_ne_nil
  have hbase := h.not_endsAtDirectory
  rw [endsAtDirectory, hsteps, List.getLast?_concat, Bool.or_eq_false_iff] at hbase
  simp at hbase
  exact ⟨names, base, hsteps, hbase.2.1, hbase.2.2⟩

theorem getLast?_placeOn (h : NamesFile p) : (placeOn p).getLast? = p.steps.getLast? := by
  obtain ⟨names, base, hsteps, hdot, hdots⟩ := h.exists_split
  rw [placeOn, hsteps, follow_concat_of_plain names hdot hdots, List.getLast?_concat,
    List.getLast?_concat]

theorem placeOn_ne_nil (h : NamesFile p) : placeOn p ≠ [] := by
  intro hplace
  have hlast := h.getLast?_placeOn
  rw [hplace, List.getLast?_nil, eq_comm, List.getLast?_eq_none_iff] at hlast
  exact h.steps_ne_nil hlast

/-- With directories all the way to it, the place of a file is found. -/
theorem placeOf_eq (h : NamesFile p) (hpass : t.Passable (parentSteps p)) :
    t.placeOf p = .ok (placeOn p) := by
  obtain ⟨names, base, hsteps, hdot, -⟩ := h.exists_split
  have hparent : parentSteps p = names.filter (· != ".") := by
    rw [parentSteps, hsteps, List.filter_append, List.filter_cons_of_pos (by simpa using hdot),
      List.filter_nil, List.dropLast_concat]
  have hnames : t.Passable names := fun place hplace =>
    hpass place (by rwa [hparent, (follow_filter_and_mem_way_filter names).2])
  have htext : ¬p.text.isEmpty := by
    intro hempty
    refine h.steps_ne_nil ?_
    rw [Path.steps, String.isEmpty_iff.1 hempty]
    rfl
  rw [placeOf, if_neg htext, placeOn, hsteps]
  exact hnames.walk_eq base

end NamesFile

/-- In its directory a file is written unless there is a directory in its place. -/
theorem write_yields (h : NamesFile p) (hpass : t.Passable (parentSteps p))
    (content : ByteArray) :
    Yields (t.write p content) (t.CanSettle [⟨placeOn p, .file content⟩])
      (t.settle [⟨placeOn p, .file content⟩]) := by
  have hwrite : t.write p content =
      if t.isDirectory (placeOn p) then .error .isADirectory
      else .ok (t.fulfil ⟨placeOn p, .file content⟩) := by
    rw [write, h.placeOf_eq hpass, h.not_endsAtDirectory, fulfil]
    cases hdir : t.isDirectory (placeOn p) with
    | true => simp [Bind.bind, Except.bind, hdir, throw, throwThe, MonadExceptOf.throw]
    | false =>
      cases hentry : t.get? (placeOn p) <;>
        simp [Bind.bind, Except.bind, hdir, hentry, Wanted.entry, Pure.pure, Except.pure]
  rw [hwrite, settle_singleton]
  cases hdir : t.isDirectory (placeOn p) with
  | true =>
    obtain ⟨mode, hmode⟩ := exists_directory_of_isDirectory hdir h.placeOn_ne_nil
    exact .error _ _ fun hcan => Bool.noConfusion (canSettle_singleton.1 hcan _ hmode)
  | false =>
    refine .ok _ (canSettle_singleton.2 fun x hx => ?_)
    cases x with
    | file mode content => rfl
    | directory mode => simp [isDirectory, hx, FileEntry.isDirectory] at hdir

/-- What has been written is the path of a file. -/
theorem namesFile_of_write {content : ByteArray} (h : t.write p content = .ok u) : NamesFile p := by
  have hend : endsAtDirectory p = false := by
    cases hend : endsAtDirectory p with
    | false => rfl
    | true =>
      rw [write, hend] at h
      cases hplace : t.placeOf p <;>
        simp [hplace, Bind.bind, Except.bind, throw, throwThe, MonadExceptOf.throw] at h
  refine ⟨fun hsteps => ?_, hend⟩
  by_cases htext : p.text = ""
  · -- the empty path leads nowhere
    rw [write, placeOf, htext] at h
    cases h
  · rw [endsAtDirectory, Path.endsInSlash_of_steps_eq_nil htext hsteps, Bool.true_or] at hend
    exact Bool.noConfusion hend

/-- A file is found if there are directories all the way to it. -/
theorem find_eq_ok_of_file (h : NamesFile p) (hpass : t.Passable (parentSteps p)) {mode : Nat}
    {content : ByteArray} (hfile : t.get? (placeOn p) = some (.file mode content)) :
    t.find p = .ok (.file mode content) := by
  have hslash := h.not_endsAtDirectory
  rw [endsAtDirectory, Bool.or_eq_false_iff] at hslash
  rw [find, h.placeOf_eq hpass]
  simp [Bind.bind, Except.bind, hfile, hslash.1, Pure.pure, Except.pure]

/-- Where a file has been demanded it is found, with the permission bits that have been demanded. -/
theorem CanSettle.exists_find_eq (h : t.CanSettle ds) {f : List String → ByteArray}
    (hcontents : ContentsFrom f ds) (hp : NamesFile p) {content : ByteArray}
    (hsub : writeDemands p content ⊆ ds) :
    (t.settle ds).placeOf p = .ok (placeOn p) ∧
    ∃ mode, (t.settle ds).find p = .ok (.file mode content) ∧
      (⟨placeOn p, .executable⟩ ∈ ds → mode = executableMode) := by
  have hpass : (t.settle ds).Passable (parentSteps p) :=
    h.passable (List.Subset.trans (List.subset_append_left _ _) hsub)
  have hwrite : ⟨placeOn p, .file content⟩ ∈ ds :=
    hsub (List.mem_append_right _ (List.mem_singleton_self _))
  obtain ⟨mode, hfile⟩ := h.isMetBy hcontents hwrite
  refine ⟨hp.placeOf_eq hpass, mode, find_eq_ok_of_file hp hpass hfile, fun hexecutable => ?_⟩
  obtain ⟨x, hx⟩ := h.isMetBy hcontents hexecutable
  rw [hfile] at hx
  exact (FileEntry.file.inj (Option.some.inj hx)).1

/-! ## Changes -/

variable (owner resource : String)

theorem success_copy (t : FileTree) (p : Path) (content : ByteArray) :
    success (FileSystem.permissive.change t (.copy owner resource p content)) =
      success (t.createDirectories (parentSteps p)) >>= fun t => t.write p content := by
  rw [FileSystem.change, createDirectories]
  rcases FileSystem.permissive.createDirectories t (parentSteps p) with ⟨u, e | ⟨⟨⟩⟩⟩
  · rfl
  · have hperform : FileSystem.permissive.perform u (.write p content) = u.write p content := rfl
    cases hwrite : u.write p content <;>
      simp [success, hperform, hwrite, Bind.bind, Except.bind]

/-- A copy makes the directories on the way to its target, and writes the target. -/
theorem copy_settles (p : Path) (content : ByteArray) :
    Settles (fun t => success (FileSystem.permissive.change t (.copy owner resource p content)))
      (NamesFile p)
      (writeDemands p content) := by
  intro t
  have hdirectories := t.createDirectories_yields (parentSteps p)
  beta_reduce
  rw [success_copy, writeDemands, canSettle_append, settle_append]
  by_cases h : NamesFile p
  · have hwrite (hcan : t.CanSettle (directoryDemands (parentSteps p))) :=
      write_yields h (hcan.passable (List.Subset.refl _)) content
    have hboth := hdirectories.bind_of (f := fun t => t.write p content) hwrite
    exact hboth.congr (and_iff_right h).symm fun _ => rfl
  · -- the directories may have been made, but the write fails
    have hwrite : t.CanSettle (directoryDemands (parentSteps p)) →
        Yields ((t.settle (directoryDemands (parentSteps p))).write p content) False t :=
      fun _ u => ⟨fun hu => (h (namesFile_of_write hu)).elim, fun hu => hu.1.elim⟩
    have hboth := hdirectories.bind_of (f := fun t => t.write p content) hwrite
    exact fun u => ⟨fun hu => (((hboth u).1 hu).1.2).elim, fun hu => (h hu.1.1).elim⟩

end TriggerPlan.FileTree
