import TriggerPlan.Proofs.FileTree.Settling

/-!
# Permission bits

Whether names can be followed, and whether a path leads to something, does not depend on permission
bits (`SameButModes.walk_eq`, `SameButModes.finds_iff`). To mark what a path leads to changes nothing
but the permission bits there (`get?_markAll`), so marks neither help nor hinder each other. The mark
of a file that has been demanded is one more demand (`settle_mark`).
-/

namespace TriggerPlan

/-! ## Entries -/

namespace FileEntry

/-- The entry without its permission bits. -/
def bare (e : FileEntry) : FileEntry :=
  e.withMode 0

@[simp] theorem bare_withMode (e : FileEntry) (mode : Nat) : (e.withMode mode).bare = e.bare := by
  cases e <;> rfl

@[simp] theorem isDirectory_bare (e : FileEntry) : e.bare.isDirectory = e.isDirectory := by
  cases e <;> rfl

@[simp] theorem withMode_withMode (e : FileEntry) (mode mode' : Nat) :
    (e.withMode mode).withMode mode' = e.withMode mode' := by
  cases e <;> rfl

/-- An entry is what it is without its permission bits, and these. -/
theorem eq_of_bare_eq {e e' : FileEntry} (h : e.bare = e'.bare) (hmode : e.mode = e'.mode) :
    e = e' := by
  rcases e with mode | ⟨mode, content⟩ <;> rcases e' with mode' | ⟨mode', content'⟩
  · exact congrArg directory hmode
  · cases h
  · cases h
  · obtain rfl := (file.inj h).2
    exact congrArg (file · content) hmode

end FileEntry

namespace FileTree

variable {t u v : FileTree} {p : Path}

/-! ## Trees that differ in permission bits -/

/-- The same stands everywhere, but for permission bits. -/
def SameButModes (t u : FileTree) : Prop :=
  ∀ place, (t.get? place).map FileEntry.bare = (u.get? place).map FileEntry.bare

namespace SameButModes

theorem symm (h : t.SameButModes u) : u.SameButModes t :=
  fun place => (h place).symm

/-- What stands at a place has a counterpart, which is the same without permission bits. -/
theorem exists_entry (h : t.SameButModes u) {place : List String} {e : FileEntry}
    (he : t.get? place = some e) : ∃ e', u.get? place = some e' ∧ e'.bare = e.bare := by
  have hplace := h place
  rw [he, Option.map_some, eq_comm, Option.map_eq_some_iff] at hplace
  exact hplace

theorem isDirectory_eq (h : t.SameButModes u) (place : List String) :
    t.isDirectory place = u.isDirectory place := by
  have hany (x : Option FileEntry) :
      x.any FileEntry.isDirectory = (x.map FileEntry.bare).any FileEntry.isDirectory := by
    cases x <;> simp
  rw [isDirectory, isDirectory, hany (t.get? place), hany (u.get? place), h place]

theorem exists?_eq (h : t.SameButModes u) (place : List String) :
    t.exists? place = u.exists? place := by
  rw [exists?, exists?, ← Option.isSome_map (f := FileEntry.bare), h place, Option.isSome_map]

theorem walk_eq (h : t.SameButModes u) (place : List String) (names : List String) :
    t.walk place names = u.walk place names := by
  induction names generalizing place with
  | nil => rfl
  | cons name names ih => rw [walk, walk, h.isDirectory_eq, h.exists?_eq, ih]

theorem placeOf_eq (h : t.SameButModes u) (p : Path) : t.placeOf p = u.placeOf p := by
  rw [placeOf, placeOf, h.walk_eq]

end SameButModes

/-! ## What paths lead to -/

/-- The path leads to something. -/
def Finds (t : FileTree) (p : Path) : Prop :=
  ∃ e, t.find p = .ok e

/-- What is found depends on the place that the path leads to. -/
theorem find_of_placeOf {place : List String} (h : t.placeOf p = .ok place) :
    t.find p =
      match t.get? place with
      | some (.directory mode) => .ok (.directory mode)
      | some (.file mode content) =>
        if p.endsInSlash then .error .notADirectory else .ok (.file mode content)
      | none => if place = [] then .ok (.directory executableMode) else .error .notFound := by
  rw [find, h]
  rcases hentry : t.get? place with _ | mode | ⟨mode, content⟩
  · cases place <;> simp [Bind.bind, Except.bind, hentry] <;> rfl
  · simp [Bind.bind, Except.bind, hentry]
    rfl
  · cases hslash : p.endsInSlash <;> simp [Bind.bind, Except.bind, hentry] <;> rfl

theorem placeOf_of_find {e : FileEntry} (h : t.find p = .ok e) :
    t.placeOf p = .ok (placeOn p) := by
  cases hplace : t.placeOf p with
  | error e' =>
    rw [find, hplace] at h
    cases h
  | ok place => rw [eq_placeOn_of_placeOf_eq_ok hplace]

/-- What a path leads to stands at its place, unless it is the root. -/
theorem get?_of_find {e : FileEntry} (h : t.find p = .ok e) (hroot : placeOn p ≠ []) :
    t.get? (placeOn p) = some e := by
  rw [find_of_placeOf (placeOf_of_find h)] at h
  rcases hentry : t.get? (placeOn p) with _ | mode | ⟨mode, content⟩
  · simp [hentry, hroot] at h
  · rw [hentry] at h
    exact congrArg some (Except.ok.inj h)
  · cases hslash : p.endsInSlash with
    | true => simp [hentry, hslash] at h
    | false =>
      simp only [hentry, hslash] at h
      exact congrArg some (Except.ok.inj h)

/-- Whether a path leads to something does not depend on permission bits. -/
theorem SameButModes.finds (h : t.SameButModes u) (hfinds : t.Finds p) : u.Finds p := by
  obtain ⟨e, he⟩ := hfinds
  have hplace := placeOf_of_find he
  have hsame := h (placeOn p)
  rw [find_of_placeOf hplace] at he
  rw [Finds, find_of_placeOf (h.placeOf_eq p ▸ hplace)]
  rcases hentry : t.get? (placeOn p) with _ | mode | ⟨mode, content⟩ <;>
    rcases hentry' : u.get? (placeOn p) with _ | mode' | ⟨mode', content'⟩ <;>
    rw [hentry, hentry'] at hsame
  all_goals try cases hsame
  · rw [hentry] at he
    exact ⟨e, he⟩
  · exact ⟨_, rfl⟩
  · cases hslash : p.endsInSlash with
    | true => simp [hentry, hslash] at he
    | false => exact ⟨_, rfl⟩

theorem SameButModes.finds_iff (h : t.SameButModes u) : t.Finds p ↔ u.Finds p :=
  ⟨h.finds, h.symm.finds⟩

/-! ## Marks -/

/-- The tree in which what stands at a place is marked executable. The root is no entry. -/
def mark (t : FileTree) (place : List String) : FileTree :=
  match t.get? place with
  | some e => if place = [] then t else t.put place (e.withMode executableMode)
  | none => t

/-- The tree in which what stands at some places is marked executable. -/
def markAll (t : FileTree) (places : List (List String)) : FileTree :=
  places.foldl mark t

theorem get?_mark (t : FileTree) (place place' : List String) :
    (t.mark place).get? place' =
      if place' = place ∧ place' ≠ [] then (t.get? place').map (·.withMode executableMode)
      else t.get? place' := by
  unfold mark
  split
  · rename_i e he
    by_cases hroot : place = []
    · rw [if_pos hroot, if_neg]
      rintro ⟨rfl, hne⟩
      exact hne hroot
    · rw [if_neg hroot, get?_put]
      by_cases hplace : place' = place
      · rw [if_pos hplace, if_pos ⟨hplace, hplace ▸ hroot⟩, hplace, he]
        rfl
      · rw [if_neg hplace, if_neg fun h => hplace h.1]
  · rename_i hnone
    split
    · rename_i h
      rw [h.1, hnone]
      rfl
    · rfl

/-- Marks change nothing but the permission bits at their places. -/
theorem get?_markAll (t : FileTree) (places : List (List String)) (place : List String) :
    (t.markAll places).get? place =
      if place ∈ places ∧ place ≠ [] then (t.get? place).map (·.withMode executableMode)
      else t.get? place := by
  induction places using List.reverseRecOn with
  | nil => simp [markAll]
  | append_singleton places last ih =>
    have hlast : t.markAll (places ++ [last]) = (t.markAll places).mark last := by
      rw [markAll, List.foldl_append]
      rfl
    rw [hlast, get?_mark, ih]
    by_cases hplace : place = last ∧ place ≠ []
    · have hmem : place ∈ places ++ [last] ∧ place ≠ [] :=
        ⟨List.mem_append_right _ (List.mem_singleton.2 hplace.1), hplace.2⟩
      rw [if_pos hplace, if_pos hmem]
      split
      · -- a second mark does not see the first
        cases t.get? place <;> simp
      · rfl
    · have hmem : place ∈ places ∧ place ≠ [] ↔ place ∈ places ++ [last] ∧ place ≠ [] := by
        rw [List.mem_append, List.mem_singleton, or_and_right, or_iff_left hplace]
      rw [if_neg hplace]
      exact if_congr hmem rfl rfl

theorem sameButModes_markAll (t : FileTree) (places : List (List String)) :
    t.SameButModes (t.markAll places) := by
  intro place
  rw [get?_markAll]
  split
  · cases t.get? place <;> simp
  · rfl

theorem sameButModes_mark (t : FileTree) (place : List String) : t.SameButModes (t.mark place) :=
  t.sameButModes_markAll [place]

/-- What a path leads to can be marked. -/
theorem setMode_yields (t : FileTree) (p : Path) :
    Yields (t.setMode p executableMode) (t.Finds p) (t.mark (placeOn p)) := by
  rw [setMode]
  cases hfind : t.find p with
  | error e => exact .error _ _ fun ⟨e', he'⟩ => by rw [hfind] at he'; cases he'
  | ok e =>
    have hmark : t.mark (placeOn p) =
        if (placeOn p).isEmpty then t else t.put (placeOn p) (e.withMode executableMode) := by
      by_cases hroot : placeOn p = []
      · rw [hroot, mark]
        cases t.get? [] <;> rfl
      · rw [mark, get?_of_find hfind hroot]
        simp [hroot]
    rw [placeOf_of_find hfind, hmark]
    exact .ok _ ⟨e, hfind⟩

/-! ## Marks as demands -/

/-- To demand an executable file where a file stands is to mark it. -/
theorem fulfil_executable {place : List String} {mode : Nat} {content : ByteArray}
    (hroot : place ≠ []) (h : t.get? place = some (.file mode content)) :
    t.fulfil ⟨place, .executable⟩ = t.mark place := by
  rw [fulfil, mark, h]
  simp only [if_neg hroot]
  rfl

/-- After a copy has been demanded its target is found, and to mark it is to demand an executable
file there. -/
theorem settle_mark {ds : List Demand} (h : NamesFile p) {content : ByteArray}
    (hcan : t.CanSettle ds) (hsub : writeDemands p content ⊆ ds) :
    (t.settle ds).Finds p ∧
    (t.settle ds).mark (placeOn p) = t.settle (ds ++ [⟨placeOn p, .executable⟩]) ∧
    t.CanSettle (ds ++ [⟨placeOn p, .executable⟩]) := by
  have hfile : ⟨placeOn p, .file content⟩ ∈ ds :=
    hsub (List.mem_append_right _ (List.mem_singleton_self _))
  have hpass : (t.settle ds).Passable (parentSteps p) :=
    hcan.passable (List.Subset.trans (List.subset_append_left _ _) hsub)
  obtain ⟨e, he, hkind⟩ := hcan.exists_entry hfile
  cases e with
  | directory mode => exact Bool.noConfusion hkind
  | file mode x =>
    refine ⟨⟨_, find_eq_ok_of_file h hpass he⟩, ?_, ?_⟩
    · rw [settle_concat, fulfil_executable h.placeOn_ne_nil he]
    · rw [canSettle_append, canSettle_singleton, he, Wanted.allows_some_iff]
      exact ⟨hcan, rfl⟩

end FileTree

end TriggerPlan
