import TriggerPlan.CommandLine.Run
import TriggerPlan.Proofs.Agreement
import TriggerPlan.Proofs.Resolution.MaterializingOrder
import TriggerPlan.Proofs.Resolution.Views

/-!
# What generation leaves behind

To generate the files of pipelines is to run their materializing steps in order
(`generateAll_eq_ok_iff`), so afterwards the demands of all steps are met at once: a later pipeline
takes nothing away from an earlier one, even if their directories coincide.
-/

namespace TriggerPlan

namespace FileTree

/-! ## Generation as a run of steps -/

/-- Writes the files of pipelines, one after the other, until one of them fails. -/
def generateAll (t : FileTree) (source : ResourceSource) :
    List Pipeline → FileTree × Except StepFailure Unit
  | [] => (t, .ok ())
  | p :: ps =>
    match t.generate source p with
    | (t, .ok ()) => t.generateAll source ps
    | failed => failed

theorem changeSteps_append (t : FileTree)
    (steps steps' : List (String × List (Except Error FileChange))) :
    t.changeSteps (steps ++ steps') =
      match t.changeSteps steps with
      | (t, .ok ()) => t.changeSteps steps'
      | failed => failed := by
  induction steps generalizing t with
  | nil => rfl
  | cons x steps ih =>
    rw [List.cons_append, changeSteps, changeSteps]
    rcases FileSystem.permissive.changeAll t x.2 with ⟨u, e | ⟨⟨⟩⟩⟩
    · rfl
    · exact ih u

/-- The changes of the command `generate` are those of its pipelines in turn. -/
theorem changeSteps_generate (t : FileTree) (c : Compiler) (res : Resolution) :
    t.changeSteps (CommandLine.Command.generate.respond c res).changes =
      t.generateAll c.resources res.pipelines := by
  change t.changeSteps (res.pipelines.flatMap (·.fileChanges c.resources)) = _
  induction res.pipelines generalizing t with
  | nil => rfl
  | cons p ps ih =>
    rw [List.flatMap_cons, changeSteps_append, generateAll, generate]
    rcases t.changeSteps (p.fileChanges c.resources) with ⟨u, e | ⟨⟨⟩⟩⟩
    · rfl
    · exact ih u

variable {k : Collaborators} {t u : FileTree} {c : Compiler}

theorem runSteps_append_eq_ok_iff {steps steps' : List (Pipeline × Step)} :
    t.runSteps k (steps ++ steps') = (u, .ok ()) ↔
      ∃ v, t.runSteps k steps = (v, .ok ()) ∧ v.runSteps k steps' = (u, .ok ()) := by
  induction steps generalizing t with
  | nil => simp [runSteps]
  | cons x steps ih =>
    rw [List.cons_append, runSteps, runSteps]
    rcases x.1.runStep x.2 k t with ⟨v, calls, e | ⟨⟨⟩⟩⟩
    · simp
    · exact ih

/-- The changes of steps that copy are those that running the steps makes. -/
theorem changeSteps_eq_ok_iff (p : Pipeline) {steps : List Step}
    (h : ∀ s ∈ steps, s.action.Copies) :
    t.changeSteps ({ p with steps := steps }.fileChanges k.resources) = (u, .ok ()) ↔
      t.runSteps k (steps.map fun s => (p, s)) = (u, .ok ()) := by
  induction steps generalizing t with
  | nil => simp [Pipeline.fileChanges, changeSteps, runSteps]
  | cons s steps ih =>
    rw [List.forall_mem_cons] at h
    rw [changeSteps_of_materialize h.1.isMaterialize_eq_true k, List.map_cons, runSteps]
    rcases p.runStep s k t with ⟨v, calls, e | ⟨⟨⟩⟩⟩
    · simp
    · exact ih h.2

/-- To generate the files of a pipeline is to run its materializing steps. -/
theorem generate_eq_ok_iff (c : Compiler) (k : Collaborators) (v : View) :
    t.generate k.resources (c.pipeline v) = (u, .ok ()) ↔
      t.runSteps k ((c.pipeline v).materializingSteps.map fun s => (c.pipeline v, s)) =
        (u, .ok ()) := by
  -- the other steps make no changes to files
  have hchanges : (c.pipeline v).fileChanges k.resources =
      { c.pipeline v with steps := (c.pipeline v).materializingSteps }.fileChanges k.resources :=
    rfl
  rw [generate, hchanges]
  exact changeSteps_eq_ok_iff _ fun s hs => Compiler.copies_of_mem_materializingSteps hs

/-- Generation runs the materializing steps of the pipelines, one pipeline after the other. -/
theorem generateAll_eq_ok_iff (c : Compiler) (k : Collaborators) (vs : List View) :
    t.generateAll k.resources (vs.map c.pipeline) = (u, .ok ()) ↔
      t.runSteps k ((vs.map c.pipeline).flatMap fun p => p.materializingSteps.map fun s => (p, s)) =
        (u, .ok ()) := by
  induction vs generalizing t with
  | nil => simp [generateAll, runSteps]
  | cons v vs ih =>
    rw [List.map_cons, List.flatMap_cons, runSteps_append_eq_ok_iff, generateAll]
    simp only [← generate_eq_ok_iff, ← ih]
    rcases t.generate k.resources (c.pipeline v) with ⟨w, e | ⟨⟨⟩⟩⟩ <;> simp

end FileTree

/-! ## The files of a trigger -/

namespace Compiler

open FileTree

/-- The files that are generated for a trigger, each with the resource that it is a copy of: those of
the wrapper in the directory of the trigger, and the templates in its directory for them. -/
def targets (c : Compiler) (v : View) : List (String × Path) :=
  let names := (Path.mk v.repository.name).child v.trigger.hostname
  let triggerDir := (c.properties.buildRoot.child "triggers").join names
  let templatesDir := (c.properties.buildRoot.child "vtl").join names
  [("gradlew", triggerDir.child "gradlew"),
    ("gradlew.bat", triggerDir.child "gradlew.bat"),
    ("gradle/wrapper/gradle-wrapper.jar", triggerDir.child "gradle/wrapper/gradle-wrapper.jar"),
    ("gradle/wrapper/gradle-wrapper.properties",
      triggerDir.child "gradle/wrapper/gradle-wrapper.properties"),
    ("build.gradle.vtl", templatesDir.child "build.gradle.vtl"),
    ("gradle.properties.vtl", templatesDir.child "gradle.properties.vtl"),
    ("settings.gradle.vtl", templatesDir.child "settings.gradle.vtl")]

/-- The targets are those that the layout and the lists of resources make up. -/
theorem targets_eq (c : Compiler) (v : View) :
    c.targets v =
      wrapperResources.map (fun r => (r, (c.layout v).triggerDir.child r)) ++
        templateResources.map fun r => (r, (c.layout v).templatesDir.child r) :=
  rfl

/-- The demands of generating the files of a trigger. -/
def demands (c : Compiler) (v : View) : List Demand :=
  (c.pipeline v).materializingSteps.flatMap fun s => s.action.demands c.resources

theorem demands_eq (c : Compiler) (v : View) :
    c.demands v =
      materializeDemands (c.layout v).triggerDir c.resources wrapperResources
          executableResources ++
        materializeDemands (c.layout v).templatesDir c.resources templateResources [] := by
  have hactions : c.demands v =
      ((c.pipeline v).materializingSteps.map (·.action)).flatMap (·.demands c.resources) := by
    rw [List.flatMap_map]
    rfl
  rw [hactions, actions_of_materializingSteps, List.flatMap_cons, List.flatMap_singleton]
  rfl

/-- If the files of pipelines can be generated, then the demands of all of them are settled. -/
theorem settled_of_generateAll {c : Compiler} {vs : List View} {t t' : FileTree}
    (hrun : t.generateAll c.resources (vs.map c.pipeline) = (t', .ok ())) :
    t.CanSettle (vs.flatMap c.demands) ∧ t' = t.settle (vs.flatMap c.demands) := by
  have hsteps := (generateAll_eq_ok_iff c ⟨c.resources, fun _ => .ok ()⟩ vs).1 hrun
  obtain ⟨⟨-, hcan⟩, rfl⟩ :=
    (runSteps_settles (fun x hx => copies_of_mem_flatMap hx) _ t t').1 (success_eq_ok_iff.2 hsteps)
  have hdemands : ((vs.map c.pipeline).flatMap fun p => p.materializingSteps.map fun s =>
      (p, s)).flatMap (fun x => x.2.action.demands c.resources) = vs.flatMap c.demands := by
    simp only [List.flatMap_assoc, List.flatMap_map]
    rfl
  rw [hdemands] at hcan ⊢
  exact ⟨hcan, rfl⟩

theorem contentsFrom_demands (c : Compiler) (vs : List View) :
    ContentsFrom (contentAt c.resources) (vs.flatMap c.demands) :=
  contentsFrom_flatMap fun _ _ => contentsFrom_flatMap fun _ hs =>
    (copies_of_mem_materializingSteps hs).contentsFrom c.resources

/-- A target is the path of a file, which is demanded with the bytes of its resource. -/
theorem demands_of_mem_targets {c : Compiler} {v : View} {x : String × Path}
    (hx : x ∈ c.targets v) :
    x.1 ∈ neededResources ∧ NamesFile x.2 ∧
      writeDemands x.2 (c.resources.bytes x.1) ⊆ c.demands v ∧
      (x.1 ∈ executableResources → ⟨placeOn x.2, .executable⟩ ∈ c.demands v) := by
  rw [targets_eq] at hx
  rw [demands_eq]
  rcases List.mem_append.1 hx with hx | hx <;> obtain ⟨r, hr, rfl⟩ := List.mem_map.1 hx
  · have hneeded : r ∈ neededResources := wrapperResources_subset hr
    refine ⟨hneeded, namesFile_child _ hneeded,
      List.subset_append_of_subset_left _ (writeDemands_subset hr), fun hexecutable => ?_⟩
    exact List.mem_append_left _ (List.mem_append_right _ (List.mem_map_of_mem hexecutable))
  · have hneeded : r ∈ neededResources := templateResources_subset hr
    have hplain : ∀ r ∈ templateResources, r ∉ executableResources := by decide
    exact ⟨hneeded, namesFile_child _ hneeded,
      List.subset_append_of_subset_right _ (writeDemands_subset hr),
      fun hexecutable => absurd hexecutable (hplain r hr)⟩

/-- A file is demanded nowhere but at a target. -/
theorem exists_target_of_mem_demands {c : Compiler} {v : View} {d : Demand}
    (hd : d ∈ c.demands v) (hwanted : d.wanted ≠ .directory) :
    ∃ x ∈ c.targets v, d.place = placeOn x.2 := by
  rw [targets_eq]
  rw [demands_eq] at hd
  rcases List.mem_append.1 hd with hd | hd
  · obtain ⟨r, hr, hplace⟩ := exists_of_mem_materializeDemands (by decide) hd hwanted
    exact ⟨_, List.mem_append_left _ (List.mem_map_of_mem hr), hplace⟩
  · obtain ⟨r, hr, hplace⟩ := exists_of_mem_materializeDemands (by decide) hd hwanted
    exact ⟨_, List.mem_append_right _ (List.mem_map_of_mem hr), hplace⟩

/-- Once the demands of all described triggers have been settled, the target of each of them is found
with the bytes of its resource. -/
theorem exists_find_target {c : Compiler} {d : Declaration} (hd : d.IsAccepted c.resources)
    {t : FileTree} (hcan : t.CanSettle (d.views.flatMap c.demands)) {v : View} (hv : v ∈ d.views)
    {x : String × Path} (hx : x ∈ c.targets v) :
    (t.settle (d.views.flatMap c.demands)).placeOf x.2 = .ok (placeOn x.2) ∧
    ∃ mode content, c.resources.load x.1 = some content ∧
      (t.settle (d.views.flatMap c.demands)).find x.2 = .ok (.file mode content) ∧
      (x.1 ∈ executableResources → mode = executableMode) := by
  have hsub : c.demands v ⊆ d.views.flatMap c.demands :=
    fun _ hmem => List.mem_flatMap.2 ⟨v, hv, hmem⟩
  obtain ⟨hneeded, hfile, hwrite, hexecutable⟩ := demands_of_mem_targets hx
  obtain ⟨hplace, mode, hfind, hmode⟩ :=
    hcan.exists_find_eq (c.contentsFrom_demands d.views) hfile (List.Subset.trans hwrite hsub)
  obtain ⟨content, hload⟩ := Option.isSome_iff_exists.1
    (missingResource?_eq_none_iff.1 (hd.missingResource?_eq_none hv) x.1 hneeded)
  rw [ResourceSource.bytes, hload] at hfind
  exact ⟨hplace, mode, content, hload, hfind, fun h => hmode (hsub (hexecutable h))⟩

/-- After a generation that has succeeded, the files of every trigger are there, with the bytes of
their resources. Where no such file is, a file stands exactly if it has stood there before, with the
content and the permission bits that it had; and the directories are as they were. -/
theorem generate_leaves {c : Compiler} {d : Declaration} {res : Resolution}
    (hres : c.resolve d = .ok res) {t t' : FileTree}
    (hrun : t.generateAll c.resources res.pipelines = (t', .ok ())) :
    (∀ v ∈ res.model.views, ∀ x ∈ c.targets v, ∃ mode content,
      c.resources.load x.1 = some content ∧ t'.find x.2 = .ok (.file mode content) ∧
      (x.1 = "gradlew" → mode = 0o755)) ∧
    (∀ place, (∀ v ∈ res.model.views, ∀ x ∈ c.targets v, t'.placeOf x.2 ≠ .ok place) →
      ∀ mode content,
        t'.get? place = some (.file mode content) ↔ t.get? place = some (.file mode content)) ∧
    ∀ place mode, t.get? place = some (.directory mode) →
      t'.get? place = some (.directory mode) := by
  obtain ⟨hd, rfl⟩ := (c.resolve_yields d res).1 hres
  obtain ⟨hcan, rfl⟩ := settled_of_generateAll hrun
  have hviews (v : View) : v ∈ d.model.views ↔ v ∈ d.views := hd.views_perm.mem_iff
  refine ⟨fun v hv x hx => ?_, fun place hplace mode content => ?_, fun place mode hdir => ?_⟩
  · obtain ⟨-, mode, content, hload, hfind, hmode⟩ :=
      exists_find_target hd hcan ((hviews v).1 hv) hx
    refine ⟨mode, content, hload, hfind, fun hname => hmode ?_⟩
    rw [hname]
    decide
  · -- what is demanded away from all targets is a directory
    refine hcan.get?_file_iff fun d' hd' hd'place => ?_
    obtain ⟨v, hv, hd'⟩ := List.mem_flatMap.1 hd'
    by_contra hwanted
    obtain ⟨x, hx, hxplace⟩ := exists_target_of_mem_demands hd' hwanted
    apply hplace v ((hviews v).2 hv) x hx
    rw [(exists_find_target hd hcan hv hx).1, ← hxplace, hd'place]
  · exact hcan.get?_directory hdir

/-- All files of both triggers are there, in the directories that the two hosts name. The script that
was there before has become executable, and the file beside it is untouched. -/
theorem generate_leaves_nested :
    ∃ t', formerRun.generateAll naming.resources Resolution.nested.pipelines = (t', .ok ()) ∧
      (∀ r ∈ ["gradlew", "gradlew.bat", "gradle/wrapper/gradle-wrapper.jar",
          "gradle/wrapper/gradle-wrapper.properties", "build.gradle.vtl", "gradle.properties.vtl",
          "settings.gradle.vtl"],
        ∀ directory ∈ ["/out/", "/out/gradle/"],
          ∃ mode, t'.find ⟨directory ++ r⟩ = .ok (.file mode r.toUTF8)) ∧
      t'.find ⟨"/out/gradlew"⟩ = .ok (.file 0o755 "gradlew".toUTF8) ∧
      t'.find ⟨"/out/gradle/gradlew"⟩ = .ok (.file 0o755 "gradlew".toUTF8) ∧
      t'.get? ["out", "notes"] = some (.file 0o640 .empty) ∧
      t'.get? ["out"] = some (.directory 0o700) := by
  obtain ⟨t', hsteps⟩ := runSteps_nested
  have hrun : formerRun.generateAll naming.resources Resolution.nested.pipelines = (t', .ok ()) :=
    (generateAll_eq_ok_iff naming .naming Declaration.nested.views).2 hsteps
  obtain ⟨hfiles, hothers, hdirectories⟩ := generate_leaves resolve_nested hrun
  have hfound : ∀ r ∈ neededResources, ∀ directory ∈ ["/out/", "/out/gradle/"], ∃ mode,
      t'.find ⟨directory ++ r⟩ = .ok (.file mode r.toUTF8) ∧ (r = "gradlew" → mode = 0o755) := by
    have htargets : ∀ r ∈ neededResources, ∀ directory ∈ ["/out/", "/out/gradle/"],
        ∃ v ∈ Resolution.nested.model.views, (r, ⟨directory ++ r⟩) ∈ naming.targets v := by
      decide +kernel
    intro r hr directory hdirectory
    obtain ⟨v, hv, hx⟩ := htargets r hr directory hdirectory
    obtain ⟨mode, content, hload, hfind, hmode⟩ := hfiles v hv _ hx
    obtain rfl := Option.some.inj hload
    exact ⟨mode, hfind, hmode⟩
  have hnotes : ∀ v ∈ Resolution.nested.model.views, ∀ x ∈ naming.targets v,
      placeOn x.2 ≠ ["out", "notes"] := by
    decide +kernel
  refine ⟨t', hrun, fun r hr directory hdirectory => ?_, ?_, ?_, ?_,
    hdirectories _ _ (by decide)⟩
  · obtain ⟨mode, hfind, -⟩ := hfound r hr directory hdirectory
    exact ⟨mode, hfind⟩
  · obtain ⟨mode, hfind, hmode⟩ := hfound "gradlew" (by decide) "/out/" (by decide)
    rwa [hmode rfl] at hfind
  · obtain ⟨mode, hfind, hmode⟩ := hfound "gradlew" (by decide) "/out/gradle/" (by decide)
    rwa [hmode rfl] at hfind
  · refine (hothers _ (fun v hv x hx h => ?_) _ _).2 (by decide)
    exact hnotes v hv x hx (eq_placeOn_of_placeOf_eq_ok h).symm

end Compiler

end TriggerPlan
