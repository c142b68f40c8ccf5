import TriggerPlan.Proofs.Materialize

/-!
# Repeated materialization

Several resources can have one target; then the last copy decides what stands there. A second
materialization overwrites it with each of the others in turn, but it ends as the first did: copies
leave the permission bits of what they find (`Wanted.mode_entry`), and what else they leave at their
places does not depend on what they find (`Wanted.bare_entry`). So what the first one has left
stays (`materialize_again`).
-/

namespace TriggerPlan

namespace Wanted

variable {w : Wanted}

/-- A demand that is not about permission bits says all about an entry but these. -/
theorem bare_entry (h : w ≠ executable) (e e' : Option FileEntry) :
    (w.entry e).bare = (w.entry e').bare := by
  cases w with
  | directory =>
    rcases e with _ | ⟨mode⟩ | ⟨mode, x⟩ <;> rcases e' with _ | ⟨mode'⟩ | ⟨mode', x'⟩ <;> rfl
  | file content => rfl
  | executable => exact absurd rfl h

/-- It leaves the permission bits of an entry of the right kind. -/
theorem mode_entry (h : w ≠ executable) {e : FileEntry} (hallows : w.Allows (some e)) :
    (w.entry (some e)).mode = e.mode := by
  rw [allows_some_iff] at hallows
  cases w with
  | directory =>
    cases e with
    | directory mode => rfl
    | file mode content => exact Bool.noConfusion hallows
  | file content => rfl
  | executable => exact absurd rfl h

end Wanted

namespace FileTree

variable {t u : FileTree} {ds : List Demand} {place : List String}

/-! ## Demands that are settled again -/

/-- Where something is demanded, demands leave the same in any two trees, but for permission bits. -/
theorem bare_get?_settle (hds : ∀ d ∈ ds, d.wanted ≠ .executable)
    (hplace : ∃ d ∈ ds, d.place = place) (t u : FileTree) :
    ((t.settle ds).get? place).map FileEntry.bare =
      ((u.settle ds).get? place).map FileEntry.bare := by
  induction ds using List.reverseRecOn with
  | nil => simp at hplace
  | append_singleton ds last ih =>
    rw [List.forall_mem_append, List.forall_mem_singleton] at hds
    rw [settle_concat, settle_concat, get?_fulfil, get?_fulfil]
    by_cases heq : place = last.place
    · -- the last demand for the place decides
      rw [if_pos heq, if_pos heq]
      exact congrArg some (Wanted.bare_entry hds.2 _ _)
    · rw [if_neg heq, if_neg heq]
      obtain ⟨d, hd, rfl⟩ := hplace
      rcases List.mem_append.1 hd with hd | hd
      · exact ih hds.1 ⟨d, hd, rfl⟩
      · exact absurd (congrArg Demand.place (List.mem_singleton.1 hd)) heq

/-- What stands in a tree keeps its permission bits when demands are settled. -/
theorem mode_get?_settle (hds : ∀ d ∈ ds, d.wanted ≠ .executable) (hcan : t.CanSettle ds)
    {e : FileEntry} (he : t.get? place = some e) :
    ∃ e', (t.settle ds).get? place = some e' ∧ e'.mode = e.mode := by
  induction ds using List.reverseRecOn with
  | nil => exact ⟨e, he, rfl⟩
  | append_singleton ds last ih =>
    rw [List.forall_mem_append, List.forall_mem_singleton] at hds
    obtain ⟨hcan, hlast⟩ := canSettle_append.1 hcan
    obtain ⟨e', he', hmode⟩ := ih hds.1 hcan
    rw [settle_concat, get?_fulfil]
    split
    · rename_i heq
      rw [canSettle_singleton, ← heq, he'] at hlast
      refine ⟨_, rfl, ?_⟩
      rw [he', Wanted.mode_entry hds.2 hlast, hmode]
    · exact ⟨e', he', hmode⟩

/-- Where demands have been settled, whatever permission bits have changed since, they can be settled
again, and change nothing. -/
theorem settle_again (hds : ∀ d ∈ ds, d.wanted ≠ .executable) (hcan : t.CanSettle ds)
    (hu : (t.settle ds).SameButModes u) : u.CanSettle ds ∧ u.settle ds = u := by
  have hcan' : u.CanSettle ds := by
    refine ⟨fun d hd x hx => ?_, hcan.compatible⟩
    obtain ⟨e, he, hkind⟩ := hcan.exists_entry hd
    obtain ⟨x', hx', hbare⟩ := hu.exists_entry he
    obtain rfl := Option.some.inj (hx.symm.trans hx')
    rw [← hkind, ← x.isDirectory_bare, hbare, e.isDirectory_bare]
  have hsame (place : List String) :
      ((u.settle ds).get? place).map FileEntry.bare = (u.get? place).map FileEntry.bare := by
    by_cases hany : ∃ d ∈ ds, d.place = place
    · rw [bare_get?_settle hds hany u t, hu place]
    · rw [get?_settle_of_ne fun d hd hplace => hany ⟨d, hd, hplace⟩]
  refine ⟨hcan', ext_get? fun place => ?_⟩
  have hbare := hsame place
  cases he : u.get? place with
  | none => simpa [he] using hbare
  | some e =>
    obtain ⟨e', he', hmode⟩ := mode_get?_settle hds hcan' he
    rw [he, he'] at hbare
    rw [he', FileEntry.eq_of_bare_eq (Option.some.inj hbare) hmode]

/-- A second round of marks changes nothing. -/
theorem markAll_markAll (t : FileTree) (places : List (List String)) :
    (t.markAll places).markAll places = t.markAll places := by
  refine ext_get? fun place => ?_
  simp only [get?_markAll]
  split
  · cases t.get? place <;> simp
  · rfl

/-! ## Copies and marks that are made again -/

variable {source : ResourceSource} {owner : String} {destination : Path}
  {resources executables : List String} {t' : FileTree}

/-- The demands of copies are not about permission bits. -/
theorem wanted_ne_executable_of_mem_copyDemands {d : Demand}
    (hd : d ∈ copyDemands destination source resources) : d.wanted ≠ .executable := by
  obtain ⟨r, -, hd⟩ := List.mem_flatMap.1 hd
  rcases List.mem_append.1 hd with hd | hd
  · rw [(mem_directoryDemands.1 hd).2.2]
    exact Wanted.noConfusion
  · rw [List.mem_singleton.1 hd]
    exact Wanted.noConfusion

/-- What has been materialized can be materialized again, and stays as it is: files, contents and
permission bits. -/
theorem materialize_again
    (h : t.materialize source owner resources destination executables = (t', .ok ())) :
    t'.materialize source owner resources destination executables = (t', .ok ()) := by
  rw [← success_eq_ok_iff] at h ⊢
  obtain ⟨⟨⟨hsource, hcan⟩, hfinds⟩, rfl⟩ :=
    (materialize_yields source owner resources destination executables t t').1 h
  have hsame := (t.settle (copyDemands destination source resources)).sameButModes_markAll
    (executables.map fun r => placeOn (destination.child r))
  obtain ⟨hcan', hsettle⟩ :=
    settle_again (fun d => wanted_ne_executable_of_mem_copyDemands) hcan hsame
  refine (materialize_yields source owner resources destination executables _ _).2
    ⟨⟨⟨hsource, hcan'⟩, ?_⟩, ?_⟩
  · rw [hsettle]
    exact fun r hr => hsame.finds (hfinds r hr)
  · rw [hsettle, markAll_markAll]

/-- Three names for one file in `out`. -/
def aliases : ResourceSource :=
  .ofList [("a", "1".toUTF8), ("./a", "2".toUTF8), ("lib/../a", "3".toUTF8)]

/-- A tree in which this file stands with other permission bits. -/
def guarded : FileTree :=
  (empty.put ["out"] (.directory 0o700)).put ["out", "a"] (.file 0o600 .empty)

/-- The last of the three copies stays. The first of them would be another file, if it came last. -/
theorem materialize_again_aliases :
    ∃ t', guarded.materialize aliases "t" ["a", "./a", "lib/../a"] ⟨"out"⟩ ["./a"] = (t', .ok ()) ∧
      t'.get? ["out", "a"] = some (.file 0o755 "3".toUTF8) ∧
      t'.materialize aliases "t" ["a", "./a", "lib/../a"] ⟨"out"⟩ ["./a"] = (t', .ok ()) ∧
      t'.materialize aliases "t" ["a"] ⟨"out"⟩ ["./a"] ≠ (t', .ok ()) := by
  obtain ⟨t', hrun, hfile, hother⟩ : ∃ t',
      guarded.materialize aliases "t" ["a", "./a", "lib/../a"] ⟨"out"⟩ ["./a"] = (t', .ok ()) ∧
      t'.get? ["out", "a"] = some (.file 0o755 "3".toUTF8) ∧
      (t'.materialize aliases "t" ["a"] ⟨"out"⟩ ["./a"]).1 ≠ t' :=
    ⟨_, Prod.ext rfl (by decide +kernel), by decide +kernel, by decide +kernel⟩
  exact ⟨t', hrun, hfile, materialize_again hrun, fun h => hother (congrArg Prod.fst h)⟩

end FileTree

end TriggerPlan
