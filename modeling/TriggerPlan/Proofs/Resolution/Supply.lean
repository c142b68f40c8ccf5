import TriggerPlan.Proofs.MissingResource
import TriggerPlan.Proofs.Model.Invariant
import TriggerPlan.Proofs.Resolution.Failure
import TriggerPlan.Proofs.Resolution.MaterializingOrder

/-!
# The supply of compiled pipelines

A trigger is compiled exactly if the resources are available that its pipeline copies. So a compiled
pipeline is never short of one (`Compiler.isSupplied_of_compile`), and what is not compiled would be
(`Compiler.isShortOf_of_compile`). This rests on three lists that agree: the resources that
compilation asks for, those that the steps carry, and the files that they declare as their outputs;
and on one path, which the model gives to a trigger and the pipeline computes anew.
-/

namespace TriggerPlan

open FileTree

/-! ## What a compiled pipeline can rely on -/

/-- The path leads to a file with the bytes of the resource. -/
def FileTree.HasCopy (t : FileTree) (source : ResourceSource) (output : Path) (resource : String) :
    Prop :=
  ∃ mode content, source.load resource = some content ∧ t.find output = .ok (.file mode content)

namespace Pipeline

/-- The error is about the first resource that the steps of the pipeline miss. A run of the steps
that copy ends in it wherever the copies would have room, so that the run could succeed from some
other source; on every tree the run ends in it, unless the file system ends the run before. -/
structure IsShortOf (p : Pipeline) (source : ResourceSource) (owner : String) (e : Error) :
    Prop where
  first : ∃ r, source.firstMissing? (p.steps.flatMap (·.action.copied)) = some r ∧
    e = .resourceMissing owner r
  met : ∀ k : Collaborators, k.resources = source → ∀ (other : ResourceSource) (t u : FileTree),
    t.runSteps { k with resources := other } (p.materializingSteps.map fun s => (p, s)) =
        (u, .ok ()) →
      ∃ t', t.runSteps k (p.materializingSteps.map fun s => (p, s)) = (t', .error e)
  stopped : ∀ k : Collaborators, k.resources = source → ∀ t : FileTree,
    ∃ t' e', t.runSteps k (p.materializingSteps.map fun s => (p, s)) = (t', .error e') ∧
      (e'.IsCopyFailureFor owner ∨ e' = e)

/-- Runs of the steps, in any order and on any tree, fail with what a collaborator has answered or
with the file system, and never for want of a resource. A step that materializes resources and
succeeds leaves a copy of each of them where the step declares it, and marks some of the copies. -/
structure IsSupplied (p : Pipeline) (source : ResourceSource) (owner : String) : Prop where
  errors : ∀ k : Collaborators, k.resources = source →
    ∀ order : List Step, (∀ s ∈ order, s ∈ p.steps) → ∀ t : FileTree,
      Reports (t.runSteps k (order.map fun s => (p, s))).2 fun e =>
        (∃ s ∈ order, s.action.IsAnswer k e) ∨ e.IsCopyFailureFor owner
  outputs : ∀ k : Collaborators, k.resources = source → ∀ s ∈ p.steps,
    ∀ resources destination executables,
      s.action = .materialize resources destination executables →
      ∀ t : FileTree, (p.runStep s k t).result = .ok () →
        List.Forall₂ ((p.runStep s k t).tree.HasCopy source) s.outputs resources
  executables : ∀ k : Collaborators, k.resources = source → ∀ s ∈ p.steps,
    ∀ resources destination executables,
      s.action = .materialize resources destination executables →
      ∀ t : FileTree, (p.runStep s k t).result = .ok () →
        ∀ r ∈ executables, r ∈ resources ∧ ∃ content, source.load r = some content ∧
          (p.runStep s k t).tree.find (destination.child r) = .ok (.file 0o755 content)

end Pipeline

/-! ## Steps that have succeeded -/

/-- After an action that copies has succeeded, its resources are found where they were copied to,
and those that it marks are executable. -/
theorem find_child_of_runStep {p : Pipeline} {s : Step} {k : Collaborators} {t : FileTree}
    {resources executables : List String} {destination : Path} (hcopies : s.action.Copies)
    (haction : s.action = .materialize resources destination executables)
    (hrun : (p.runStep s k t).result = .ok ()) {r : String} (hr : r ∈ resources) :
    ∃ mode content, k.resources.load r = some content ∧
      (p.runStep s k t).tree.find (destination.child r) = .ok (.file mode content) ∧
      (r ∈ executables → mode = executableMode) := by
  have hsuccess : success ((p.runStep s k t).tree, (p.runStep s k t).result) =
      .ok (p.runStep s k t).tree := by
    rw [hrun]
    rfl
  obtain ⟨⟨hsource, hcan⟩, htree⟩ := (runStep_settles p hcopies k t _).1 hsuccess
  have hcontents := hcopies.contentsFrom k.resources
  rw [haction] at hcopies hsource hcan htree hcontents
  cases hcopies with
  | materialize _ hresources hexecutables =>
    obtain ⟨content, hcontent⟩ := Option.isSome_iff_exists.1 (hsource r hr)
    obtain ⟨-, mode, hfind, hmode⟩ := hcan.exists_find_eq hcontents
      (namesFile_child destination (hresources hr)) (writeDemands_subset hr)
    rw [← htree, ResourceSource.bytes, hcontent] at hfind
    refine ⟨mode, content, hcontent, hfind, fun hexecutable => hmode ?_⟩
    exact List.mem_append_right _ (List.mem_map_of_mem hexecutable)

namespace Compiler

variable {c : Compiler} {v : View}

/-! ## The lists of a compiled pipeline -/

/-- The steps that copy carry the resources that compilation asks for, in this order. -/
theorem copied_of_pipeline (c : Compiler) (v : View) :
    (c.pipeline v).steps.flatMap (·.action.copied) = neededResources :=
  rfl

theorem copied_of_materializingSteps (c : Compiler) (v : View) :
    (c.pipeline v).materializingSteps.flatMap (·.action.copied) = neededResources :=
  rfl

/-- A step of a compiled pipeline that materializes resources declares the paths of their copies. -/
theorem copies_of_action_eq_materialize {s : Step} (hs : s ∈ (c.pipeline v).steps)
    {resources executables : List String} {destination : Path}
    (haction : s.action = .materialize resources destination executables) :
    s.action.Copies ∧ s.outputs = resourcePaths destination resources := by
  have hsteps : s ∈ triggerSteps v.trigger.name (c.layout v) (v.context c.properties) := hs
  simp only [triggerSteps, List.mem_cons, List.not_mem_nil, or_false] at hsteps
  rcases hsteps with rfl | rfl | rfl | rfl | rfl
  · cases haction
    exact ⟨.materialize _ wrapperResources_subset (by decide), rfl⟩
  · cases haction
    exact ⟨.materialize _ templateResources_subset (List.nil_subset _), rfl⟩
  · exact nomatch haction
  · exact nomatch haction
  · exact nomatch haction

/-! ## The path of a compiled pipeline -/

/-- The pipeline of a trigger in a consistent model has the path of the trigger. -/
theorem path_pipeline {m : Model} (hm : m.IsConsistent) {name hostname : String}
    (hv : m.view? name hostname = some v) (c : Compiler) :
    (c.pipeline v).path = v.trigger.path := by
  have hnames : (v.repository.name, v.trigger.hostname) = (name, hostname) := hm.names_of_view? hv
  obtain ⟨rfl, rfl⟩ := Prod.mk.inj hnames
  rw [Pipeline.path_eq_triggerPath, triggerPath_eq,
    (hm.trigger (Model.trigger?_of_view? hv)).path]
  rfl

/-! ## Compilation as a check of the supply -/

/-- A trigger is compiled if the resources are available that its steps copy. -/
theorem exists_compile_iff (c : Compiler) (v : View) :
    (∃ p, c.compile v = .ok p) ↔
      ∀ s ∈ (c.pipeline v).steps, ∀ r ∈ s.action.copied, c.resources.contains r = true := by
  have hcopied : (∀ r ∈ (c.pipeline v).steps.flatMap (·.action.copied),
      c.resources.contains r = true) ↔ c.missingResource? = none := by
    rw [copied_of_pipeline, missingResource?_eq_none_iff]
  rw [(c.compile_yields v).exists_iff, ← hcopied]
  exact List.forall_mem_flatMap

/-- What is compiled never misses a resource. -/
theorem isSupplied_of_compile {p : Pipeline} (hp : c.compile v = .ok p) :
    p.IsSupplied c.resources p.path := by
  have hcontains := (exists_compile_iff c v).1 ⟨p, hp⟩
  obtain ⟨-, rfl⟩ := (c.compile_yields v p).1 hp
  constructor
  · intro k hk order horder t
    refine runSteps_reports_of_supplied (fun s hs r hr => ?_) t
    rw [hk]
    exact hcontains s (horder s hs) r hr
  · intro k hk s hs resources destination executables haction t hrun
    obtain ⟨hcopies, houtputs⟩ := copies_of_action_eq_materialize hs haction
    rw [houtputs, resourcePaths, List.forall₂_map_left_iff, List.forall₂_same]
    intro r hr
    obtain ⟨mode, content, hload, hfind, -⟩ := find_child_of_runStep hcopies haction hrun hr
    rw [hk] at hload
    exact ⟨mode, content, hload, hfind⟩
  · intro k hk s hs resources destination executables haction t hrun r hr
    obtain ⟨hcopies, -⟩ := copies_of_action_eq_materialize hs haction
    have hmem : r ∈ resources := by
      rw [haction] at hcopies
      cases hcopies with
      | materialize _ _ hexecutables => exact hexecutables hr
    obtain ⟨mode, content, hload, hfind, hmode⟩ := find_child_of_runStep hcopies haction hrun hmem
    rw [hk] at hload
    rw [hmode hr] at hfind
    exact ⟨hmem, content, hload, hfind⟩

/-- What is not compiled would miss the resource that is reported. -/
theorem isShortOf_of_compile {e : Error} (he : c.compile v = .error e)
    (hpath : (c.pipeline v).path = v.trigger.path) :
    (c.pipeline v).IsShortOf c.resources v.trigger.path e := by
  obtain ⟨r, hr, rfl⟩ := c.compile_reports v e he
  have hfirst : c.resources.firstMissing? neededResources = some r := hr
  have hcopies : ∀ s ∈ (c.pipeline v).materializingSteps, s.action.Copies :=
    fun s hs => copies_of_mem_materializingSteps hs
  constructor
  · exact ⟨r, hfirst, rfl⟩
  · intro k hk other t u hrun
    have horder : ∀ x ∈ (c.pipeline v).materializingSteps.map fun s => (c.pipeline v, s),
        x.2.action.Copies := List.forall_mem_map.2 hcopies
    obtain ⟨⟨-, hcan⟩, -⟩ := (runSteps_settles horder _ t u).1 (success_eq_ok_iff.2 hrun)
    rw [List.flatMap_map] at hcan
    rw [← hk, ← copied_of_materializingSteps c v] at hfirst
    rw [← hpath]
    exact runSteps_meets_firstMissing other hcopies hcan hfirst
  · intro k hk t
    rw [← hk, ← copied_of_materializingSteps c v] at hfirst
    rw [← hpath]
    exact runSteps_of_firstMissing hcopies hfirst t

/-- Compilation is a check of the supply of a trigger: it succeeds if its steps find all the
resources that they copy, and then no run of them is ever short of one; otherwise it reports the
resource that the run of these steps would be short of first. -/
theorem compile_checks_supply (c : Compiler) (ops : List Operation) {name hostname : String}
    {v : View} (hv : (Model.new.attemptAll ops).view? name hostname = some v) :
    ((∃ p, c.compile v = .ok p) ↔
      ∀ s ∈ (c.pipeline v).steps, ∀ r ∈ s.action.copied, c.resources.contains r = true) ∧
    (∀ e, c.compile v = .error e →
      (c.pipeline v).IsShortOf c.resources v.trigger.path e) ∧
    ∀ p, c.compile v = .ok p → p = c.pipeline v ∧ p.IsSupplied c.resources v.trigger.path := by
  have hm : (Model.new.attemptAll ops).IsConsistent := Model.isConsistent_new.attemptAll ops
  have hpath : (c.pipeline v).path = v.trigger.path := path_pipeline hm hv c
  refine ⟨exists_compile_iff c v, fun e he => isShortOf_of_compile he hpath, fun p hp => ?_⟩
  have hsupplied := isSupplied_of_compile hp
  obtain ⟨-, rfl⟩ := (c.compile_yields v p).1 hp
  rw [hpath] at hsupplied
  exact ⟨rfl, hsupplied⟩

/-- A compiler that lacks a script of the wrapper and a template. -/
def lacking : Compiler :=
  ⟨{}, Declaration.emptyFiles.without ["settings.gradle.vtl", "gradlew.bat"]⟩

/-- The trigger that the sample run leaves, with its owners. -/
def sampleView : View :=
  let t := { Trigger.new "north" "alpha" with settings := { group := some "inner" } }
  let r := { Repository.new "north" with
    settings := { group := some "outer", versionHistorySize := some 7 } }
  ⟨.empty, r.putTrigger t, t⟩

theorem view?_sampleRun :
    (Model.new.attemptAll Model.sampleRun).view? "north" "alpha" = some sampleView := by
  decide +kernel

/-- The trigger is compiled with all resources. Without two of them the one that comes first is
reported, and a run on the empty tree does meet it. -/
theorem compile_checks_supply_of_sampleView :
    (∃ p, sample.compile sampleView = .ok p ∧
      p.IsSupplied sample.resources "triggers/north/alpha") ∧
    lacking.compile sampleView =
      .error (.resourceMissing "triggers/north/alpha" "gradlew.bat") ∧
    (lacking.pipeline sampleView).IsShortOf lacking.resources "triggers/north/alpha"
      (.resourceMissing "triggers/north/alpha" "gradlew.bat") ∧
    (FileTree.empty.runSteps ⟨lacking.resources, fun _ => .ok ()⟩
      ((lacking.pipeline sampleView).materializingSteps.map
        fun s => (lacking.pipeline sampleView, s))).2 =
          .error (.resourceMissing "triggers/north/alpha" "gradlew.bat") := by
  have hlacking : lacking.compile sampleView =
      .error (.resourceMissing "triggers/north/alpha" "gradlew.bat") := rfl
  refine ⟨⟨_, rfl, ?_⟩, hlacking, ?_, ?_⟩
  · exact ((compile_checks_supply sample Model.sampleRun view?_sampleRun).2.2 _ rfl).2
  · exact (compile_checks_supply lacking Model.sampleRun view?_sampleRun).2.1 _ hlacking
  · decide +kernel

end Compiler

end TriggerPlan
