import TriggerPlan.Proofs.FileTree.Way

/-!
# What the making of directories leaves behind

Directories that were made before a failure stay. So all there is to say about the making of a
directory, whether it succeeds or fails, is that everything stands where it has stood, and that what
is new is an empty directory on the way. This is so on every system, whatever it refuses
(`FileSystem.createDirectories_grows`).
-/

namespace TriggerPlan

namespace FileTree

/-- `u` has all that `t` has, with the contents and permission bits that it had, and besides at most
some new directories, at some of the places. -/
structure GrowsTo (t u : FileTree) (places : List (List String)) : Prop where
  kept : ∀ place e, t.get? place = some e → u.get? place = some e
  added : ∀ place, t.get? place = none →
    u.get? place = none ∨ place ∈ places ∧ u.get? place = some (.directory executableMode)

namespace GrowsTo

variable {t u v : FileTree} {places places' : List (List String)}

theorem refl (t : FileTree) (places : List (List String)) : t.GrowsTo t places :=
  ⟨fun _ _ h => h, fun _ h => .inl h⟩

theorem mono (h : t.GrowsTo u places) (hsub : places ⊆ places') : t.GrowsTo u places' :=
  ⟨h.kept, fun place hplace => (h.added place hplace).imp id fun hnew => ⟨hsub hnew.1, hnew.2⟩⟩

theorem trans (h : t.GrowsTo u places) (h' : u.GrowsTo v places) : t.GrowsTo v places := by
  refine ⟨fun place e he => h'.kept place e (h.kept place e he), fun place hplace => ?_⟩
  rcases h.added place hplace with hnone | ⟨hmem, hnew⟩
  · exact h'.added place hnone
  · exact .inr ⟨hmem, h'.kept place _ hnew⟩

/-- The files are the same, with their contents and permission bits. -/
theorem get?_file_iff (h : t.GrowsTo u places) {place : List String} {mode : Nat}
    {content : ByteArray} :
    u.get? place = some (.file mode content) ↔ t.get? place = some (.file mode content) := by
  constructor
  · intro hfile
    cases hplace : t.get? place with
    | none =>
      rcases h.added place hplace with hnone | ⟨-, hnew⟩
      · rw [hnone] at hfile
        cases hfile
      · rw [hnew] at hfile
        cases hfile
    | some e => rw [← h.kept place e hplace, hfile]
  · exact h.kept place _

end GrowsTo

/-! ## Making directories -/

variable {t u : FileTree} {names : List String}

/-- A directory is only made where nothing is. -/
theorem makeDirectory_grows (h : t.makeDirectory names = .ok u) : t.GrowsTo u [follow names] := by
  rw [makeDirectory] at h
  cases hwalk : t.walk [] names with
  | error e =>
    rw [hwalk] at h
    cases h
  | ok place =>
    have hmake : (if t.exists? place then Except.error FileError.alreadyExists
        else .ok (t.put place (.directory executableMode))) = .ok u := by
      rw [← h, hwalk]
      rfl
    obtain rfl : place = follow names := eq_foldl_of_walk_eq_ok hwalk
    cases hexists : t.exists? (follow names) with
    | true =>
      rw [hexists, if_pos rfl] at hmake
      cases hmake
    | false =>
      rw [hexists, if_neg Bool.false_ne_true] at hmake
      obtain rfl := Except.ok.inj hmake
      have hnone : t.get? (follow names) = none := by
        simpa using (Bool.or_eq_false_iff.1 hexists).2
      constructor
      · intro place e he
        rw [get?_put, if_neg, he]
        rintro rfl
        rw [hnone] at he
        cases he
      · intro place hplace
        rw [get?_put]
        split
        · rename_i heq
          exact .inr ⟨List.mem_singleton.2 heq, rfl⟩
        · exact .inl hplace

end FileTree

namespace FileSystem

open FileTree

variable (fs : FileSystem) {t u : FileTree} {names : List String}

theorem ensureDirectory_grows (h : fs.ensureDirectory t names = .ok u) :
    t.GrowsTo u [follow names] := by
  unfold ensureDirectory at h
  split at h
  · split at h
    · obtain rfl := Except.ok.inj h
      exact .refl t _
    · cases h
  · have hmake : t.makeDirectory names = .ok u := fs.sound _ _ _ h
    exact makeDirectory_grows hmake

/-- Whether the directories on the way can be had or not, none is made elsewhere. -/
theorem createReversed_grows (t : FileTree) (names : List String) :
    t.GrowsTo (fs.createReversed t names).1 (way names.reverse) := by
  induction names with
  | nil => exact .refl t _
  | cons name above ih =>
    rw [List.reverse_cons]
    have hlast : [follow (above.reverse ++ [name])] ⊆ way (above.reverse ++ [name]) :=
      List.cons_subset.2 ⟨follow_mem_way _, List.nil_subset _⟩
    have habove : way above.reverse ⊆ way (above.reverse ++ [name]) := by
      rw [way_concat]
      exact List.subset_append_left _ _
    unfold createReversed
    rw [List.reverse_cons]
    dsimp only
    split
    · rename_i u hensure
      exact (fs.ensureDirectory_grows hensure).mono hlast
    · -- the way before the last name has been made, or a part of it
      rcases hrun : fs.createReversed t above with ⟨u, e | ⟨⟨⟩⟩⟩
      all_goals
        rw [hrun] at ih
        have hgrows := ih.mono habove
        dsimp only
      · exact hgrows
      · split
        · rename_i v hensure
          exact hgrows.trans ((fs.ensureDirectory_grows hensure).mono hlast)
        · exact hgrows
    · exact .refl t _

/-- Making a directory, with those on the way to it, adds nothing but directories on this way. -/
theorem createDirectories_grows (t : FileTree) (names : List String) :
    t.GrowsTo (fs.createDirectories t names).1 (way names) := by
  have h := fs.createReversed_grows t names.reverse
  rwa [List.reverse_reverse] at h

end FileSystem

end TriggerPlan
