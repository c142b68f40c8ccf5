import TriggerPlan.Proofs.FileTree.Growth
import TriggerPlan.Proofs.Materialize

/-!
# Materializations that fail

A materialization that fails has made all changes before the one that failed, and none after it. The
change that failed has left nothing behind but, at most, directories on the way to its target, if it
is a copy (`change_copy_grows`), and nothing at all if it is a mark. So the tree at the point of
failure is known from what comes before this point (`materialize_stops`). It does not matter why the
change has failed: all of this holds on every system, whatever it refuses.
-/

namespace TriggerPlan.FileSystem

open FileTree (GrowsTo markAll placeOn parentSteps way)

variable {fs : FileSystem} {t t' u : FileTree} {e : Error}

/-! ## Changes that fail -/

/-- A run of changes that fails has made those before the one that failed. -/
theorem changeAll_map_eq_error {α : Type} {f : α → Except Error FileChange} {l : List α}
    (h : fs.changeAll t (l.map f) = (t', .error e)) :
    ∃ pre a post u, l = pre ++ a :: post ∧ fs.changeAll t (pre.map f) = (u, .ok ()) ∧
      fs.changeAll u [f a] = (t', .error e) := by
  induction l generalizing t with
  | nil => cases h
  | cons a l ih =>
    rcases hfirst : fs.changeAll t [f a] with ⟨u, e' | ⟨⟨⟩⟩⟩
    · -- the first change fails, and the run with it
      rw [List.map_cons, ← List.singleton_append, changeAll_append_of_error hfirst] at h
      exact ⟨[], a, l, t, rfl, rfl, hfirst.trans h⟩
    · rw [List.map_cons, ← List.singleton_append, changeAll_append_of_ok hfirst] at h
      obtain ⟨pre, b, post, v, rfl, hpre, hlast⟩ := ih h
      refine ⟨a :: pre, b, post, v, rfl, ?_, hlast⟩
      rw [List.map_cons, ← List.singleton_append, changeAll_append_of_ok hfirst, hpre]

/-- One change fails as the file system refuses it. -/
theorem changeAll_singleton_eq_error {c : FileChange}
    (h : fs.changeAll t [.ok c] = (t', .error e)) :
    ∃ cause, fs.change t c = (t', .error cause) ∧ e = c.failure cause := by
  rw [changeAll] at h
  rcases hrun : fs.change t c with ⟨u, cause | ⟨⟨⟩⟩⟩
  · rw [hrun] at h
    obtain ⟨rfl, he⟩ := Prod.mk.inj h
    exact ⟨cause, rfl, (Except.error.inj he).symm⟩
  · rw [hrun] at h
    cases h

variable {owner r : String} {p : Path} {content : ByteArray} {cause : FileError}

/-- A copy that fails leaves at most directories on the way to its target. -/
theorem change_copy_grows (h : fs.change t (.copy owner r p content) = (t', .error cause)) :
    t.GrowsTo t' (way (parentSteps p)) := by
  have hgrows := fs.createDirectories_grows t (parentSteps p)
  rw [change] at h
  rcases hrun : fs.createDirectories t (parentSteps p) with ⟨u, e | ⟨⟨⟩⟩⟩
  all_goals
    rw [hrun] at h hgrows
    dsimp only at h hgrows
  · rwa [← (Prod.mk.inj h).1]
  · -- the directories are there, and the write has failed
    cases hwrite : fs.perform u (.write p content) with
    | ok v =>
      rw [hwrite] at h
      cases h
    | error e =>
      rw [hwrite] at h
      rwa [← (Prod.mk.inj h).1]

/-- A mark that fails leaves nothing. -/
theorem eq_of_change_mark (h : fs.change t (.markExecutable owner r p) = (t', .error cause)) :
    t' = t := by
  rw [change] at h
  cases hmark : fs.perform t (.setMode p executableMode) with
  | ok u =>
    rw [hmark] at h
    cases h
  | error e =>
    rw [hmark] at h
    exact (Prod.mk.inj h).1.symm

/-! ## Marks that are made -/

variable {source : ResourceSource} {destination : Path} {resources executables : List String}

/-- Marks that are made, on whatever system, mark what the paths lead to. -/
theorem eq_markAll_of_changeAll {rs : List String}
    (h : fs.changeAll u (rs.map (markChange owner destination)) = (t', .ok ())) :
    t' = u.markAll (rs.map fun r => placeOn (destination.child r)) := by
  induction rs generalizing u with
  | nil => exact (Prod.mk.inj h).1.symm
  | cons r rs ih =>
    rw [List.map_cons, markChange, changeAll, change] at h
    cases hmark : fs.perform u (.setMode (destination.child r) executableMode) with
    | error e =>
      rw [hmark] at h
      cases h
    | ok v =>
      have hset : u.setMode (destination.child r) executableMode = .ok v := fs.sound _ _ _ hmark
      obtain ⟨-, rfl⟩ := (u.setMode_yields (destination.child r) v).1 hset
      rw [hmark] at h
      exact ih h

/-! ## Materializations that fail -/

/-- The copy of the resource `r` into a directory has been tried on `u`, has left `t'` and has failed
with `e`. -/
structure CopyFails (fs : FileSystem) (source : ResourceSource) (owner : String)
    (destination : Path) (r : String) (u t' : FileTree) (e : Error) : Prop where
  /-- Nothing is new but directories on the way to the target. -/
  grows : u.GrowsTo t' (way (parentSteps (destination.child r)))
  /-- No file has come, gone or changed. -/
  file_iff : ∀ place mode content,
    t'.get? place = some (.file mode content) ↔ u.get? place = some (.file mode content)
  missing_iff : e = .resourceMissing owner r ↔ source.load r = none
  /-- For a resource that is missing not even a directory has been made. -/
  untouched : source.load r = none → t' = u
  refused : ∀ content, source.load r = some content →
    ∃ cause, fs.change u (.copy owner r (destination.child r) content) = (t', .error cause) ∧
      e = .copyFailed owner r (destination.child r) cause

/-- The mark of what the path of `r` leads to has been tried on `t'`, and has failed with `e`. -/
structure MarkFails (fs : FileSystem) (owner : String) (destination : Path) (r : String)
    (t' : FileTree) (e : Error) : Prop where
  refused : ∃ cause,
    fs.change t' (.markExecutable owner r (destination.child r)) = (t', .error cause) ∧
      e = .copyFailed owner r (destination.child r) cause

/-- The error is about the resource that was to be copied. -/
theorem CopyFails.error_eq (h : fs.CopyFails source owner destination r u t' e) :
    e = .resourceMissing owner r ∨ ∃ cause, e = .copyFailed owner r (destination.child r) cause := by
  cases hload : source.load r with
  | none => exact .inl (h.missing_iff.2 hload)
  | some content =>
    obtain ⟨cause, -, he⟩ := h.refused content hload
    exact .inr ⟨cause, he⟩

theorem copyFails_of_copyChange
    (h : fs.changeAll u [copyChange source owner destination r] = (t', .error e)) :
    fs.CopyFails source owner destination r u t' e := by
  rw [copyChange] at h
  cases hload : source.load r with
  | none =>
    rw [hload] at h
    obtain ⟨rfl, he⟩ := Prod.mk.inj h
    obtain rfl := Except.error.inj he
    exact ⟨.refl _ _, fun _ _ _ => Iff.rfl, ⟨fun _ => hload, fun _ => rfl⟩, fun _ => rfl,
      by simp [hload]⟩
  | some content =>
    rw [hload] at h
    obtain ⟨cause, hcopy, rfl⟩ := changeAll_singleton_eq_error h
    have hgrows := change_copy_grows hcopy
    refine ⟨hgrows, fun _ _ _ => hgrows.get?_file_iff, by simp [FileChange.failure, hload],
      by simp [hload], ?_⟩
    intro content' hcontent
    obtain rfl := Option.some.inj (hload.symm.trans hcontent)
    exact ⟨cause, hcopy, rfl⟩

theorem markFails_of_markChange
    (h : fs.changeAll u [markChange owner destination r] = (t', .error e)) :
    t' = u ∧ fs.MarkFails owner destination r t' e := by
  obtain ⟨cause, hmark, rfl⟩ := changeAll_singleton_eq_error h
  obtain rfl := eq_of_change_mark hmark
  exact ⟨rfl, ⟨cause, hmark, rfl⟩⟩

/-- Without executables, only the copies are made. -/
theorem materialize_nil (fs : FileSystem) (t : FileTree) (source : ResourceSource) (owner : String)
    (resources : List String) (destination : Path) :
    fs.materialize t source owner resources destination [] =
      fs.changeAll t (resources.map (copyChange source owner destination)) := by
  rw [materialize, materializeChanges_eq, List.map_nil, List.append_nil]

/-- After the copies have been made, the marks are made. -/
theorem materialize_of_copies
    (h : fs.materialize t source owner resources destination [] = (u, .ok ()))
    (executables : List String) :
    fs.materialize t source owner resources destination executables =
      fs.changeAll u (executables.map (markChange owner destination)) := by
  rw [materialize_nil] at h
  rw [materialize, materializeChanges_eq, changeAll_append_of_ok h]

/-- A copy that fails ends the materialization, whatever comes after it. -/
theorem CopyFails.materialize_eq {pre : List String}
    (hpre : fs.materialize t source owner pre destination [] = (u, .ok ()))
    (h : fs.CopyFails source owner destination r u t' e) (post executables : List String) :
    fs.materialize t source owner (pre ++ r :: post) destination executables = (t', .error e) := by
  have hcopy : fs.changeAll u [copyChange source owner destination r] = (t', .error e) := by
    rw [copyChange]
    cases hload : source.load r with
    | none =>
      rw [h.untouched hload, h.missing_iff.2 hload]
      rfl
    | some content =>
      obtain ⟨cause, hchange, rfl⟩ := h.refused content hload
      simp only [changeAll, hchange]
      rfl
  rw [materialize_nil] at hpre
  rw [materialize, materializeChanges_eq, List.map_append, List.append_assoc,
    changeAll_append_of_ok hpre, List.map_cons, ← List.singleton_append, List.append_assoc,
    changeAll_append_of_error hcopy]

/-- On any system, a materialization that fails at the copy of a resource has copied the resources
before it, and nothing else but directories on the way to this copy has come to the tree. If it fails
at a mark, all resources have been copied, and what has been marked is what the executables before it
lead to. -/
theorem materialize_stops
    (h : fs.materialize t source owner resources destination executables = (t', .error e)) :
    (∃ pre r post u, resources = pre ++ r :: post ∧
      fs.materialize t source owner pre destination [] = (u, .ok ()) ∧
      fs.CopyFails source owner destination r u t' e) ∨
    ∃ pre r post u, executables = pre ++ r :: post ∧
      fs.materialize t source owner resources destination [] = (u, .ok ()) ∧
      fs.materialize t source owner resources destination pre = (t', .ok ()) ∧
      (∀ place, t'.get? place =
        if place ∈ pre.map (fun x => placeOn (destination.child x)) ∧ place ≠ [] then
          (u.get? place).map (·.withMode 0o755)
        else u.get? place) ∧
      fs.MarkFails owner destination r t' e := by
  rcases hcopies : fs.materialize t source owner resources destination [] with ⟨u, e' | ⟨⟨⟩⟩⟩
  · -- a failed copy ends the run before the marks
    left
    rw [materialize_nil] at hcopies
    rw [materialize, materializeChanges_eq, changeAll_append_of_error hcopies] at h
    obtain ⟨pre, r, post, v, hsplit, hpre, hlast⟩ := changeAll_map_eq_error (hcopies.trans h)
    refine ⟨pre, r, post, v, hsplit, ?_, copyFails_of_copyChange hlast⟩
    rw [materialize_nil, hpre]
  · right
    rw [materialize_of_copies hcopies] at h
    obtain ⟨pre, r, post, v, hsplit, hpre, hlast⟩ := changeAll_map_eq_error h
    obtain ⟨rfl, hfails⟩ := markFails_of_markChange hlast
    refine ⟨pre, r, post, u, hsplit, rfl, ?_, ?_, hfails⟩
    · rw [materialize_of_copies hcopies, hpre]
    · obtain rfl := eq_markAll_of_changeAll hpre
      exact u.get?_markAll _

/-- The part before the second of some resources is the first of them, if no other is that one. -/
theorem eq_singleton_of_eq_append_cons {first second : String} {rest pre post : List String}
    (hfirst : first ≠ second) (hrest : second ∉ rest)
    (hsplit : first :: second :: rest = pre ++ second :: post) : pre = [first] := by
  rcases pre with _ | ⟨x, _ | ⟨y, pre⟩⟩
  · exact absurd (List.cons.inj hsplit).1 hfirst
  · rw [(List.cons.inj hsplit).1]
  · -- the second one would stand among the rest
    have htail : rest = pre ++ second :: post := (List.cons.inj (List.cons.inj hsplit).2).2
    exact absurd (htail ▸ List.mem_append_cons_self) hrest

/-- A tree with one file, so that no directory can be made there. -/
def blocked : FileTree :=
  FileTree.empty.put ["notes"] (.file 0o600 .empty)

/-- A resource between two others, with a path that leads through the file. -/
def scattered : ResourceSource :=
  .ofList [("a", "a".toUTF8), ("new/../../notes/x", "x".toUTF8), ("b", "b".toUTF8)]

/-- A system that refuses to mark one file. -/
def protecting : FileSystem where
  perform t q :=
    if q = .setMode ⟨"out/b"⟩ 0o755 then .error (.other "Operation not permitted (os error 1)")
    else t.perform q
  sound t q u h := by
    split at h
    · cases h
    · exact h

/-- The copy that fails leaves the directory that has been made on the way. The resource before it
has been copied as it would have been alone, and is not marked. The mark that is refused leaves the
copies of both resources, and the first of them marked. -/
theorem materialize_stops_on_the_way :
    (∃ u t', blocked.materialize scattered "t" ["a", "new/../../notes/x", "b"] ⟨"out"⟩ ["a"] =
        (t', .error (.copyFailed "t" "new/../../notes/x" ⟨"out/new/../../notes/x"⟩
          .alreadyExists)) ∧
      blocked.materialize scattered "t" ["a"] ⟨"out"⟩ [] = (u, .ok ()) ∧
      u.GrowsTo t' [[], ["out"], ["out", "new"], ["out"], [], ["notes"]] ∧
      u.get? ["out", "a"] = some (.file 0o644 ⟨#[0x61]⟩) ∧
      u.get? ["out", "new"] = none ∧ t'.get? ["out", "new"] = some (.directory 0o755)) ∧
    ∃ t', protecting.materialize blocked scattered "t" ["a", "b"] ⟨"out"⟩ ["a", "b"] =
        (t', .error (.copyFailed "t" "b" ⟨"out/b"⟩
          (.other "Operation not permitted (os error 1)"))) ∧
      t'.get? ["out", "a"] = some (.file 0o755 ⟨#[0x61]⟩) ∧
      t'.get? ["out", "b"] = some (.file 0o644 ⟨#[0x62]⟩) := by
  constructor
  · obtain ⟨t', hrun, hdirectory⟩ : ∃ t',
        blocked.materialize scattered "t" ["a", "new/../../notes/x", "b"] ⟨"out"⟩ ["a"] =
          (t', .error (.copyFailed "t" "new/../../notes/x" ⟨"out/new/../../notes/x"⟩
            .alreadyExists)) ∧
        t'.get? ["out", "new"] = some (.directory 0o755) :=
      ⟨_, Prod.ext rfl (by decide +kernel), by decide +kernel⟩
    have hbefore :
        (blocked.materialize scattered "t" ["a"] ⟨"out"⟩ []).1.get? ["out", "a"] =
          some (.file 0o644 ⟨#[0x61]⟩) ∧
        (blocked.materialize scattered "t" ["a"] ⟨"out"⟩ []).1.get? ["out", "new"] = none := by
      decide +kernel
    have hway : way (parentSteps ((Path.mk "out").child "new/../../notes/x")) =
        [[], ["out"], ["out", "new"], ["out"], [], ["notes"]] := by
      decide +kernel
    rcases materialize_stops hrun with
      ⟨pre, r, post, u, hsplit, hpre, hfails⟩ | ⟨pre, r, post, u, hsplit, -, -, -, hfails⟩
    · -- the error tells which resource it is about, and so where the list has been cut
      obtain rfl : r = "new/../../notes/x" := by
        rcases hfails.error_eq with he | ⟨cause, he⟩
        · cases he
        · exact (Error.copyFailed.inj he).2.1.symm
      obtain rfl := eq_singleton_of_eq_append_cons (by decide) (by decide) hsplit
      have hgrows := hfails.grows
      have hcopied : blocked.materialize scattered "t" ["a"] ⟨"out"⟩ [] = (u, .ok ()) := hpre
      rw [hway] at hgrows
      rw [hcopied] at hbefore
      exact ⟨u, t', hrun, hcopied, hgrows, hbefore.1, hbefore.2, hdirectory⟩
    · obtain ⟨cause, -, he⟩ := hfails.refused
      obtain rfl := (Error.copyFailed.inj he).2.1
      rcases pre with _ | ⟨x, pre⟩ <;> simp at hsplit
  · obtain ⟨t', hrun⟩ : ∃ t',
        protecting.materialize blocked scattered "t" ["a", "b"] ⟨"out"⟩ ["a", "b"] =
          (t', .error (.copyFailed "t" "b" ⟨"out/b"⟩
            (.other "Operation not permitted (os error 1)"))) :=
      ⟨_, Prod.ext rfl (by decide +kernel)⟩
    have hcopies :
        (protecting.materialize blocked scattered "t" ["a", "b"] ⟨"out"⟩ []).2 = .ok () ∧
        (protecting.materialize blocked scattered "t" ["a", "b"] ⟨"out"⟩ []).1.get? ["out", "a"] =
          some (.file 0o644 ⟨#[0x61]⟩) ∧
        (protecting.materialize blocked scattered "t" ["a", "b"] ⟨"out"⟩ []).1.get? ["out", "b"] =
          some (.file 0o644 ⟨#[0x62]⟩) := by
      decide +kernel
    rcases materialize_stops hrun with
      ⟨pre, r, post, u, hsplit, hpre, hfails⟩ | ⟨pre, r, post, u, hsplit, hpre, -, hmarked, hfails⟩
    · -- no copy fails
      rw [hsplit, hfails.materialize_eq hpre post []] at hcopies
      cases hcopies.1
    · obtain ⟨cause, -, he⟩ := hfails.refused
      obtain rfl := (Error.copyFailed.inj he).2.1
      obtain rfl := eq_singleton_of_eq_append_cons (by decide) (by decide) hsplit
      rw [hpre] at hcopies
      refine ⟨t', hrun, ?_, ?_⟩
      · rw [hmarked, if_pos (by decide +kernel), hcopies.2.1]
        rfl
      · rw [hmarked, if_neg (by decide +kernel), hcopies.2.2]

end TriggerPlan.FileSystem
