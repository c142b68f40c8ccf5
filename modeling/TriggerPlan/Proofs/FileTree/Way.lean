import Mathlib.Data.List.Infix
import TriggerPlan.FileTree.Basic

/-!
# Ways through a file tree

Names lead from place to place, starting at the root. Where they lead to is decided by the names
alone (`follow`); whether they can be followed depends on what stands at the places on the way
(`walk_cases`): a name can only be looked up in a directory.
-/

namespace TriggerPlan.FileTree

/-! ## Places that names lead to -/

/-- The place that names lead to from the root, if each of them can be followed. -/
def follow (names : List String) : List String :=
  names.foldl next []

/-- The places that names lead through, from the root to the last one. -/
def way (names : List String) : List (List String) :=
  names.inits.map follow

theorem follow_concat (names : List String) (name : String) :
    follow (names ++ [name]) = next (follow names) name := by
  rw [follow, List.foldl_append]
  rfl

/-- A name other than `.` and `..` leads one step down. -/
theorem follow_concat_of_plain (names : List String) {name : String} (hdot : name ≠ ".")
    (hdots : name ≠ "..") : follow (names ++ [name]) = follow names ++ [name] := by
  rw [follow_concat, next, if_neg hdot, if_neg hdots]

/-- One more name adds the place that it leads to. -/
theorem way_concat (names : List String) (name : String) :
    way (names ++ [name]) = way names ++ [follow (names ++ [name])] := by
  rw [way, List.inits_append, List.map_append]
  rfl

theorem follow_mem_way (names : List String) : follow names ∈ way names :=
  List.mem_map_of_mem ((List.mem_inits _ _).2 (List.prefix_refl names))

/-- Names that stay where they are do not matter. -/
theorem follow_filter_and_mem_way_filter (names : List String) :
    follow (names.filter (· != ".")) = follow names ∧
      ∀ place, place ∈ way (names.filter (· != ".")) ↔ place ∈ way names := by
  induction names using List.reverseRecOn with
  | nil => exact ⟨rfl, fun _ => Iff.rfl⟩
  | append_singleton names name ih =>
    obtain ⟨hfollow, hmem⟩ := ih
    by_cases hdot : name = "."
    · have hstay : follow (names ++ [name]) = follow names := by
        rw [follow_concat, next, if_pos hdot]
      have hfilter : (names ++ [name]).filter (· != ".") = names.filter (· != ".") := by
        simp [hdot]
      rw [hfilter, hstay, way_concat, hstay]
      refine ⟨hfollow, fun place => ?_⟩
      rw [hmem, List.mem_append, List.mem_singleton]
      refine ⟨Or.inl, fun h => h.elim id fun heq => ?_⟩
      rw [heq]
      exact follow_mem_way names
    · have hfilter : (names ++ [name]).filter (· != ".") = names.filter (· != ".") ++ [name] := by
        simp [hdot]
      have hsame : follow (names.filter (· != ".") ++ [name]) = follow (names ++ [name]) := by
        rw [follow_concat, hfollow, follow_concat]
      rw [hfilter, hsame]
      refine ⟨rfl, fun place => ?_⟩
      rw [way_concat, way_concat, hsame, List.mem_append, List.mem_append, hmem]

/-! ## Walking -/

theorem isDirectory_root (t : FileTree) : t.isDirectory [] = true :=
  rfl

/-- There is a directory at every place on the way, so one more name can be looked up. -/
def Passable (t : FileTree) (names : List String) : Prop :=
  ∀ place ∈ way names, t.isDirectory place = true

theorem walk_append (t : FileTree) (place : List String) (names names' : List String) :
    t.walk place (names ++ names') = t.walk place names >>= fun q => t.walk q names' := by
  induction names generalizing place with
  | nil => rfl
  | cons name names ih =>
    rw [List.cons_append, walk, walk]
    split
    · exact ih _
    · split <;> rfl

/-- Where a walk gets to does not depend on the tree. -/
theorem eq_foldl_of_walk_eq_ok {t : FileTree} {place place' : List String} {names : List String}
    (h : t.walk place names = .ok place') : place' = names.foldl next place := by
  induction names generalizing place with
  | nil => exact (Except.ok.inj h).symm
  | cons name names ih =>
    rw [walk] at h
    split at h
    · exact ih h
    · split at h <;> exact absurd h (by simp)

/-- A walk gets to the place that its names lead to, or it is stopped at a place that is not a
directory. -/
theorem walk_cases (t : FileTree) (names : List String) (name : String) :
    (t.Passable names ∧ t.walk [] (names ++ [name]) = .ok (follow (names ++ [name]))) ∨
    (∃ place ∈ way names, t.isDirectory place = false ∧ t.exists? place = true ∧
      t.walk [] (names ++ [name]) = .error .notADirectory) ∨
    ∃ place ∈ way names, t.exists? place = false ∧
      t.walk [] (names ++ [name]) = .error .notFound := by
  induction names using List.reverseRecOn generalizing name with
  | nil =>
    refine .inl ⟨fun place hplace => ?_, rfl⟩
    obtain rfl := List.mem_singleton.1 hplace
    exact t.isDirectory_root
  | append_singleton names last ih =>
    have hlast : follow (names ++ [last]) ∈ way (names ++ [last]) := follow_mem_way _
    have hearlier {place : List String} (h : place ∈ way names) : place ∈ way (names ++ [last]) := by
      rw [way_concat]
      exact List.mem_append_left _ h
    rw [walk_append]
    rcases ih last with ⟨hpass, hwalk⟩ | ⟨place, hplace, hdir, hexists, hwalk⟩ |
      ⟨place, hplace, hexists, hwalk⟩
    · -- the walk gets to the last place of the way, where the next name is looked up
      have hnext : (Except.ok (follow (names ++ [last])) >>= fun q => t.walk q [name]) =
          if t.isDirectory (follow (names ++ [last])) then
            .ok (next (follow (names ++ [last])) name)
          else if t.exists? (follow (names ++ [last])) then .error .notADirectory
          else .error .notFound := rfl
      rw [hwalk, hnext]
      cases hdir : t.isDirectory (follow (names ++ [last])) with
      | true =>
        refine .inl ⟨fun place hplace => ?_, ?_⟩
        · rw [way_concat, List.mem_append, List.mem_singleton] at hplace
          rcases hplace with hplace | rfl
          · exact hpass place hplace
          · exact hdir
        · rw [if_pos rfl, follow_concat (names ++ [last])]
      | false =>
        cases hexists : t.exists? (follow (names ++ [last])) with
        | true => exact .inr (.inl ⟨_, hlast, hdir, hexists, rfl⟩)
        | false => exact .inr (.inr ⟨_, hlast, hexists, rfl⟩)
    · rw [hwalk]
      exact .inr (.inl ⟨place, hearlier hplace, hdir, hexists, rfl⟩)
    · rw [hwalk]
      exact .inr (.inr ⟨place, hearlier hplace, hexists, rfl⟩)

theorem exists_of_isDirectory {t : FileTree} {place : List String}
    (hdir : t.isDirectory place = true) : t.exists? place = true := by
  rw [isDirectory, Bool.or_eq_true] at hdir
  rw [exists?, Bool.or_eq_true]
  refine hdir.imp id fun h => ?_
  obtain ⟨e, he, -⟩ := (Option.any_eq_true _ _).1 h
  exact Option.isSome_iff_exists.2 ⟨e, he⟩

/-- With directories all the way one more name can be looked up. -/
theorem Passable.walk_eq {t : FileTree} {names : List String} (h : t.Passable names)
    (name : String) : t.walk [] (names ++ [name]) = .ok (follow (names ++ [name])) := by
  rcases t.walk_cases names name with ⟨-, hwalk⟩ | ⟨place, hplace, hdir, -⟩ |
    ⟨place, hplace, hexists, -⟩
  · exact hwalk
  · rw [h place hplace] at hdir
    exact Bool.noConfusion hdir
  · rw [exists_of_isDirectory (h place hplace)] at hexists
    exact Bool.noConfusion hexists

/-- Below the root a directory is an entry. -/
theorem exists_directory_of_isDirectory {t : FileTree} {place : List String}
    (hdir : t.isDirectory place = true) (hne : place ≠ []) :
    ∃ mode, t.get? place = some (.directory mode) := by
  cases hentry : t.get? place with
  | none => simp [isDirectory, hentry, hne] at hdir
  | some e =>
    cases e with
    | directory mode => exact ⟨mode, rfl⟩
    | file mode content => simp [isDirectory, hentry, hne, FileEntry.isDirectory] at hdir

/-- What is not a directory is a file, if there is anything. -/
theorem exists_file_of_not_isDirectory {t : FileTree} {place : List String}
    (hdir : t.isDirectory place = false) (hexists : t.exists? place = true) :
    place ≠ [] ∧ ∃ mode content, t.get? place = some (.file mode content) := by
  have hne : place ≠ [] := by
    rintro rfl
    rw [isDirectory_root] at hdir
    exact Bool.noConfusion hdir
  refine ⟨hne, ?_⟩
  cases hentry : t.get? place with
  | none => simp [exists?, hentry, hne] at hexists
  | some e =>
    cases e with
    | directory mode => simp [isDirectory, hentry, FileEntry.isDirectory] at hdir
    | file mode content => exact ⟨mode, content, rfl⟩

end TriggerPlan.FileTree
