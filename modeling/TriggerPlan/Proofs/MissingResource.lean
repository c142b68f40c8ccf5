import TriggerPlan.Proofs.Execution
import TriggerPlan.Proofs.Failure

/-!
# Resources that a run misses

What the errors of steps can be. A step that copies fails with the trouble that the file system had
with one of its files, or for want of the first resource that the source does not have; every other
step fails as the collaborator answers (`runStep_reports`). A run from a source that has all
resources of its steps never fails for want of one (`runSteps_reports_of_supplied`). Where one is
missing, a run meets the first if there is room for the copies (`runSteps_meets_firstMissing`).
-/

namespace TriggerPlan

/-! ## The first missing resource -/

/-- The first of some resources that the source does not have. -/
def ResourceSource.firstMissing? (s : ResourceSource) (names : List String) : Option String :=
  names.find? fun r => !s.contains r

section FirstMissing

variable {s : ResourceSource} {names : List String}

theorem ResourceSource.firstMissing?_eq_none_iff :
    s.firstMissing? names = none ↔ ∀ r ∈ names, s.contains r = true := by
  rw [firstMissing?, List.find?_eq_none]
  simp

/-- Where nothing is missing at first, the first missing resource comes later. -/
theorem ResourceSource.firstMissing?_append (h : ∀ r ∈ names, s.contains r = true)
    (names' : List String) : s.firstMissing? (names ++ names') = s.firstMissing? names' := by
  have hnone : names.find? (fun r => !s.contains r) = none := firstMissing?_eq_none_iff.2 h
  rw [firstMissing?, List.find?_append, hnone, Option.none_or, firstMissing?]

/-- What is missing at first is missing first. -/
theorem ResourceSource.firstMissing?_append_of_some {r : String}
    (h : s.firstMissing? names = some r) (names' : List String) :
    s.firstMissing? (names ++ names') = some r := by
  have hsome : names.find? (fun r => !s.contains r) = some r := h
  rw [firstMissing?, List.find?_append, hsome, Option.some_or]

end FirstMissing

/-! ## Errors of changes -/

/-- The first error that stands in place of a change. -/
def firstError? (cs : List (Except Error FileChange)) : Option Error :=
  cs.findSome? fun
    | .error e => some e
    | .ok _ => none

theorem firstError?_append (cs cs' : List (Except Error FileChange)) :
    firstError? (cs ++ cs') = (firstError? cs).or (firstError? cs') :=
  List.findSome?_append

theorem firstError?_eq_none {cs : List (Except Error FileChange)} (h : ∀ c ∈ cs, ∃ d, c = .ok d) :
    firstError? cs = none := by
  rw [firstError?, List.findSome?_eq_none_iff]
  intro c hc
  obtain ⟨d, rfl⟩ := h c hc
  rfl

/-- Changes end with the failure of one of them, or with the first error in place of one. -/
theorem FileSystem.changeAll_reports (fs : FileSystem) (t : FileTree)
    (cs : List (Except Error FileChange)) :
    Reports (fs.changeAll t cs).2 fun e =>
      (∃ c cause, .ok c ∈ cs ∧ e = c.failure cause) ∨ firstError? cs = some e := by
  induction cs generalizing t with
  | nil => exact Reports.ok ()
  | cons c cs ih =>
    cases c with
    | error e => exact Reports.error (.inr rfl)
    | ok c =>
      rw [changeAll]
      rcases fs.change t c with ⟨u, cause | ⟨⟨⟩⟩⟩
      · exact Reports.error (.inl ⟨c, cause, List.mem_cons_self, rfl⟩)
      · refine (ih u).mono ?_
        rintro e (⟨c', cause, hc', rfl⟩ | he)
        · exact .inl ⟨c', cause, List.mem_cons_of_mem _ hc', rfl⟩
        · exact .inr he

variable {source : ResourceSource} {owner : String} {resources executables : List String}
  {destination : Path}

/-- Among the changes that materialize resources the first error is about the first resource that is
missing. -/
theorem firstError?_materializeChanges :
    firstError? (materializeChanges source owner resources destination executables) =
      (source.firstMissing? resources).map (.resourceMissing owner) := by
  have hmarks : firstError? (executables.map (markChange owner destination)) = none :=
    firstError?_eq_none (List.forall_mem_map.2 fun r _ => ⟨_, rfl⟩)
  rw [materializeChanges_eq, firstError?_append, hmarks, Option.or_none]
  induction resources with
  | nil => rfl
  | cons r rs ih =>
    rw [List.map_cons, firstError?, List.findSome?_cons, ResourceSource.firstMissing?,
      List.find?_cons, ResourceSource.contains, copyChange]
    cases source.load r with
    | none => rfl
    | some content => exact ih

/-- A change that materializes resources fails as the copy of one of them. -/
theorem failure_of_mem_materializeChanges {c : FileChange}
    (hc : .ok c ∈ materializeChanges source owner resources destination executables)
    (cause : FileError) :
    ∃ r ∈ resources ++ executables,
      c.failure cause = .copyFailed owner r (destination.child r) cause := by
  rw [materializeChanges_eq] at hc
  rcases List.mem_append.1 hc with hc | hc
  · obtain ⟨r, hr, heq⟩ := List.mem_map.1 hc
    rw [copyChange] at heq
    cases hload : source.load r with
    | none =>
      rw [hload] at heq
      cases heq
    | some content =>
      rw [hload] at heq
      obtain rfl := Except.ok.inj heq
      exact ⟨r, List.mem_append_left _ hr, rfl⟩
  · obtain ⟨r, hr, heq⟩ := List.mem_map.1 hc
    obtain rfl := Except.ok.inj heq
    exact ⟨r, List.mem_append_right _ hr, rfl⟩

/-! ## Errors of steps -/

/-- The error says that the file system refused a copy for the trigger at `owner`. -/
def Error.IsCopyFailureFor (owner : String) (e : Error) : Prop :=
  ∃ resource destination cause, e = .copyFailed owner resource destination cause

/-- Materialization fails with the file system, or for want of the first missing resource. -/
theorem FileTree.materialize_reports (t : FileTree) :
    Reports (t.materialize source owner resources destination executables).2 fun e =>
      e.IsCopyFailureFor owner ∨
        ∃ r, source.firstMissing? resources = some r ∧ e = .resourceMissing owner r := by
  refine (FileSystem.permissive.changeAll_reports t _).mono ?_
  rintro e (⟨c, cause, hc, rfl⟩ | he)
  · obtain ⟨r, -, hfailure⟩ := failure_of_mem_materializeChanges hc cause
    exact .inl ⟨r, _, cause, hfailure⟩
  · rw [firstError?_materializeChanges, Option.map_eq_some_iff] at he
    obtain ⟨r, hr, rfl⟩ := he
    exact .inr ⟨r, hr, rfl⟩

/-- The error is what a collaborator answers to a call that the action makes. -/
def Action.IsAnswer (a : Action) (k : Collaborators) (e : Error) : Prop :=
  ∃ call ∈ a.calls, k.answer call = .error e

/-- A step fails as its collaborator answers, with the file system, or for want of the first of its
resources that is missing. -/
theorem runStep_reports (p : Pipeline) (s : Step) (k : Collaborators) (t : FileTree) :
    Reports (p.runStep s k t).result fun e =>
      s.action.IsAnswer k e ∨ e.IsCopyFailureFor p.path ∨
        ∃ r, k.resources.firstMissing? s.action.copied = some r ∧
          e = .resourceMissing p.path r := by
  obtain ⟨id, kind, needs, inputs, outputs, action⟩ := s
  cases action with
  | materialize resources destination executables =>
    exact t.materialize_reports.mono fun e he => .inr he
  | render templatesDir outputDir context =>
    exact fun e he => .inl ⟨.render templatesDir outputDir context, List.mem_cons_self, he⟩
  | archive sources target =>
    exact fun e he => .inl ⟨.archive sources target, List.mem_cons_self, he⟩
  | publish artifact classifier =>
    exact fun e he => .inl ⟨.publish artifact classifier, List.mem_cons_self, he⟩

/-! ## Errors of runs -/

namespace FileTree

variable {p : Pipeline} {k : Collaborators} {steps : List Step} {t : FileTree}

/-- A run from a source that has the resources of all steps fails with the file system, or as a
collaborator answers. -/
theorem runSteps_reports_of_supplied
    (h : ∀ s ∈ steps, ∀ r ∈ s.action.copied, k.resources.contains r = true) (t : FileTree) :
    Reports (t.runSteps k (steps.map fun s => (p, s))).2 fun e =>
      (∃ s ∈ steps, s.action.IsAnswer k e) ∨ e.IsCopyFailureFor p.path := by
  induction steps generalizing t with
  | nil => exact Reports.ok ()
  | cons s steps ih =>
    rw [List.forall_mem_cons] at h
    have hstep := runStep_reports p s k t
    rw [List.map_cons, runSteps]
    rcases hrun : p.runStep s k t with ⟨u, calls, e | ⟨⟨⟩⟩⟩
    · rw [hrun] at hstep
      refine Reports.error ?_
      rcases hstep e rfl with hanswer | hcopy | ⟨r, hr, -⟩
      · exact .inl ⟨s, List.mem_cons_self, hanswer⟩
      · exact .inr hcopy
      · rw [ResourceSource.firstMissing?_eq_none_iff.2 h.1] at hr
        cases hr
    · refine (ih h.2 u).mono ?_
      rintro e (⟨s', hs', hanswer⟩ | hcopy)
      · exact .inl ⟨s', List.mem_cons_of_mem _ hs', hanswer⟩
      · exact .inr hcopy

/-- A run of steps that copy fails with the file system, or for want of the first resource that is
missing from all of them together. -/
theorem runSteps_reports_firstMissing (h : ∀ s ∈ steps, s.action.Copies) (t : FileTree) :
    Reports (t.runSteps k (steps.map fun s => (p, s))).2 fun e =>
      e.IsCopyFailureFor p.path ∨
        ∃ r, k.resources.firstMissing? (steps.flatMap (·.action.copied)) = some r ∧
          e = .resourceMissing p.path r := by
  induction steps generalizing t with
  | nil => exact Reports.ok ()
  | cons s steps ih =>
    rw [List.forall_mem_cons] at h
    have hstep := runStep_reports p s k t
    have hsettles := runStep_settles p h.1 k t
    rw [List.map_cons, runSteps, List.flatMap_cons]
    rcases hrun : p.runStep s k t with ⟨u, calls, e | ⟨⟨⟩⟩⟩
    · rw [hrun] at hstep
      refine Reports.error ?_
      rcases hstep e rfl with ⟨call, hcall, -⟩ | hcopy | ⟨r, hr, rfl⟩
      · rw [h.1.calls_eq_nil] at hcall
        exact absurd hcall List.not_mem_nil
      · exact .inl hcopy
      · exact .inr ⟨r, ResourceSource.firstMissing?_append_of_some hr _, rfl⟩
    · -- the step has succeeded, so that none of its resources is missing
      beta_reduce at hsettles
      rw [hrun] at hsettles
      obtain ⟨⟨hsource, -⟩, -⟩ := (hsettles u).1 rfl
      rw [ResourceSource.firstMissing?_append hsource]
      exact ih h.2 u

/-- If a resource is missing, such a run meets the first one, unless the file system stops it. -/
theorem runSteps_of_firstMissing (h : ∀ s ∈ steps, s.action.Copies) {r : String}
    (hr : k.resources.firstMissing? (steps.flatMap (·.action.copied)) = some r) (t : FileTree) :
    ∃ t' e, t.runSteps k (steps.map fun s => (p, s)) = (t', .error e) ∧
      (e.IsCopyFailureFor p.path ∨ e = .resourceMissing p.path r) := by
  have hreports := runSteps_reports_firstMissing (p := p) (k := k) h t
  rcases hrun : t.runSteps k (steps.map fun s => (p, s)) with ⟨t', e | ⟨⟨⟩⟩⟩
  · rw [hrun, hr] at hreports
    refine ⟨t', e, rfl, ?_⟩
    rcases hreports e rfl with hcopy | ⟨r', hr', he⟩
    · exact .inl hcopy
    · obtain rfl := Option.some.inj hr'
      exact .inr he
  · -- a run that succeeds has found all resources
    have horder : ∀ x ∈ steps.map fun s => (p, s), x.2.action.Copies := List.forall_mem_map.2 h
    obtain ⟨⟨hsource, -⟩, -⟩ := (runSteps_settles horder k t t').1 (success_eq_ok_iff.2 hrun)
    have hnone : k.resources.firstMissing? (steps.flatMap (·.action.copied)) = none := by
      rw [ResourceSource.firstMissing?_eq_none_iff, List.forall_mem_flatMap]
      exact fun s hs => hsource (p, s) (List.mem_map_of_mem hs)
    rw [hnone] at hr
    cases hr

/-! ## Runs that would have room for their copies -/

/-- Where the copies of resources have room, so have those of some of them from another source. -/
theorem covers_copyDemands {part all : List String} (h : part ⊆ all)
    (source source' : ResourceSource) (destination : Path) :
    Covers (copyDemands destination source' all) (copyDemands destination source part) := by
  intro d hd
  obtain ⟨r, hr, hd⟩ := List.mem_flatMap.1 hd
  rcases List.mem_append.1 hd with hd | hd
  · exact ⟨d, List.mem_flatMap.2 ⟨r, h hr, List.mem_append_left _ hd⟩, rfl, rfl⟩
  · obtain rfl := List.mem_singleton.1 hd
    have hfile : ⟨placeOn (destination.child r), .file (source'.bytes r)⟩ ∈
        writeDemands (destination.child r) (source'.bytes r) :=
      List.mem_append_right _ List.mem_cons_self
    exact ⟨_, List.mem_flatMap.2 ⟨r, h hr, hfile⟩, rfl, rfl⟩

/-- The same holds of the action that copies them. -/
theorem covers_demands (a : Action) (source source' : ResourceSource) :
    Covers (a.demands source') (a.demands source) := by
  cases a with
  | materialize resources destination executables =>
    have hcopies := covers_copyDemands (List.Subset.refl resources) source source' destination
    exact hcopies.append (covers_of_subset (List.Subset.refl _))
  | render templatesDir outputDir context => exact covers_of_subset (List.Subset.refl _)
  | archive sources target => exact covers_of_subset (List.Subset.refl _)
  | publish artifact classifier => exact covers_of_subset (List.Subset.refl _)

/-- If there is room for the copies, materialization meets the first resource that is missing. -/
theorem materialize_of_firstMissing (full : ResourceSource) (owner : String)
    (executables : List String) {r : String} (hresources : resources ⊆ neededResources)
    (hcan : t.CanSettle (copyDemands destination full resources))
    (hr : source.firstMissing? resources = some r) :
    ∃ t', t.materialize source owner resources destination executables =
      (t', .error (.resourceMissing owner r)) := by
  obtain ⟨hmissing, pre, post, hsplit, hpre⟩ := List.find?_eq_some_iff_append.1 hr
  have hsub : pre ⊆ resources := by
    rw [hsplit]
    exact List.subset_append_left _ _
  have hroom : t.CanSettle (copyDemands destination source pre) :=
    hcan.of_covers (covers_copyDemands hsub source full destination)
  have hcontains : ∀ r' ∈ pre, source.contains r' = true ∧ NamesFile (destination.child r') :=
    fun r' hr' => ⟨by simpa using hpre r' hr', namesFile_child destination (hresources (hsub hr'))⟩
  have hcopies := (copies_settle source destination owner pre t _).2 ⟨⟨hcontains, hroom⟩, rfl⟩
  have hload : copyChange source owner destination r = .error (.resourceMissing owner r) := by
    have hnone : source.load r = none := by
      simpa [ResourceSource.contains] using hmissing
    rw [copyChange, hnone]
  refine ⟨t.settle (copyDemands destination source pre), ?_⟩
  rw [materialize, FileSystem.materialize, materializeChanges_eq, hsplit, List.map_append,
    List.map_cons, hload, List.append_assoc]
  exact FileSystem.changeAll_append_of_ok (success_eq_ok_iff.1 hcopies) _

/-- If there is room for the copies of all steps, a run meets the first resource that is missing. -/
theorem runSteps_meets_firstMissing (full : ResourceSource) {r : String}
    (h : ∀ s ∈ steps, s.action.Copies)
    (hcan : t.CanSettle (steps.flatMap (·.action.demands full)))
    (hr : k.resources.firstMissing? (steps.flatMap (·.action.copied)) = some r) :
    ∃ t', t.runSteps k (steps.map fun s => (p, s)) =
      (t', .error (.resourceMissing p.path r)) := by
  induction steps generalizing t with
  | nil => cases hr
  | cons s steps ih =>
    rw [List.forall_mem_cons] at h
    rw [List.flatMap_cons] at hcan hr
    rw [List.map_cons, runSteps]
    cases hfirst : k.resources.firstMissing? s.action.copied with
    | none =>
      have hsource := ResourceSource.firstMissing?_eq_none_iff.1 hfirst
      rw [ResourceSource.firstMissing?_append hsource] at hr
      have hroom : t.CanSettle (s.action.demands k.resources ++
          steps.flatMap (·.action.demands full)) :=
        hcan.of_covers ((covers_demands s.action k.resources full).append
          (covers_of_subset (List.Subset.refl _)))
      obtain ⟨hstep, hrest⟩ := canSettle_append.1 hroom
      have hrun := (runStep_settles p h.1 k t _).2 ⟨⟨hsource, hstep⟩, rfl⟩
      obtain ⟨htree, hresult⟩ := Prod.mk.inj (success_eq_ok_iff.1 hrun)
      rcases hstep : p.runStep s k t with ⟨u, calls, result⟩
      rw [hstep] at htree hresult
      obtain rfl : u = t.settle (s.action.demands k.resources) := htree
      obtain rfl : result = .ok () := hresult
      exact ih h.2 hrest hr
    | some r' =>
      rw [ResourceSource.firstMissing?_append_of_some hfirst] at hr
      obtain rfl := Option.some.inj hr
      obtain ⟨id, kind, needs, inputs, outputs, action⟩ := s
      obtain @⟨resources, executables, destination, hresources, -⟩ := h.1
      have hroom : t.CanSettle (copyDemands destination full resources) :=
        hcan.of_append.of_append
      obtain ⟨t', hrun⟩ :=
        materialize_of_firstMissing full p.path executables hresources hroom hfirst
      refine ⟨t', ?_⟩
      rw [Pipeline.runStep]
      dsimp only
      rw [hrun]

end FileTree

end TriggerPlan
