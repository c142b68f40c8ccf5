import TriggerPlan.Proofs.Execution

/-!
# Generation and execution agree

To generate the files of a pipeline and to run its steps are two loops over the same steps. The first
picks the actions that materialize resources, and the second hands the other actions to
collaborators. If nothing but a failed materialization ends the second loop, then both leave the same
tree and end at the same step, with the same error (`generate_agrees`). It does not matter what the
collaborators answer, or what the kinds of the steps say.
-/

namespace TriggerPlan

/-! ## Running all steps -/

/-- Runs steps of a pipeline in order, and records what each of them leaves. A materialization that
fails ends the run; any other failure does not. What the collaborators answer may depend on the calls
before. -/
def Pipeline.runs (p : Pipeline) (source : ResourceSource)
    (answers : List Call → Call → Except Error Unit) (t : FileTree) (calls : List Call) :
    List Step → List (Step × StepRun)
  | [] => []
  | s :: steps =>
    let run := p.runStep s ⟨source, answers calls⟩ t
    (s, run) ::
      if s.action.isMaterialize && !run.result.isOk then []
      else p.runs source answers run.tree (calls ++ run.calls) steps

/-- The tree that runs leave, if they begin with `t`. -/
def FileTree.after (t : FileTree) (runs : List (Step × StepRun)) : FileTree :=
  (runs.getLast?.map (·.2.tree)).getD t

theorem FileTree.after_cons (t : FileTree) (x : Step × StepRun) (runs : List (Step × StepRun)) :
    t.after (x :: runs) = x.2.tree.after runs := by
  rw [after, after, List.getLast?_cons]
  cases runs.getLast? <;> rfl

variable {p : Pipeline} {source : ResourceSource} {answers : List Call → Call → Except Error Unit}
  {t : FileTree} {calls : List Call} {s : Step} {steps : List Step}

/-- The steps that are run come first in the list, in the same order. -/
theorem Pipeline.map_fst_runs_prefix :
    (p.runs source answers t calls steps).map Prod.fst <+: steps := by
  induction steps generalizing t calls with
  | nil => exact List.prefix_rfl
  | cons s steps ih =>
    rw [runs, List.map_cons, List.prefix_cons_inj]
    split
    · exact List.nil_prefix
    · exact ih

/-- If no materialization fails, all steps are run. -/
theorem Pipeline.map_fst_runs
    (h : ∀ x ∈ p.runs source answers t calls steps,
      x.1.action.isMaterialize = true → x.2.result = .ok ()) :
    (p.runs source answers t calls steps).map Prod.fst = steps := by
  induction steps generalizing t calls with
  | nil => rfl
  | cons s steps ih =>
    rw [runs, List.forall_mem_cons] at h
    have hgoes : (s.action.isMaterialize &&
        !(p.runStep s ⟨source, answers calls⟩ t).result.isOk) = false := by
      cases hkind : s.action.isMaterialize with
      | false => rfl
      | true =>
        rw [h.1 hkind]
        rfl
    rw [hgoes, if_neg Bool.false_ne_true] at h
    rw [runs, hgoes, if_neg Bool.false_ne_true, List.map_cons, ih h.2]

/-! ## Generation as a loop over the steps -/

/-- Generation passes over a step that is handed to a collaborator. -/
theorem FileTree.changeSteps_of_hands_over (h : s.action.isMaterialize = false) :
    t.changeSteps ({ p with steps := s :: steps }.fileChanges source) =
      t.changeSteps ({ p with steps := steps }.fileChanges source) := by
  obtain ⟨id, kind, needs, inputs, outputs, action⟩ := s
  cases action with
  | materialize resources destination executables => exact Bool.noConfusion h
  | render templatesDir outputDir context => rfl
  | archive sources target => rfl
  | publish artifact classifier => rfl

/-- Generation runs a step that materializes resources, and goes on if the step succeeds. -/
theorem FileTree.changeSteps_of_materialize (h : s.action.isMaterialize = true)
    (k : Collaborators) :
    t.changeSteps ({ p with steps := s :: steps }.fileChanges k.resources) =
      match p.runStep s k t with
      | ⟨u, _, .ok ()⟩ => u.changeSteps ({ p with steps := steps }.fileChanges k.resources)
      | ⟨u, _, .error e⟩ => (u, .error ⟨s.id, e⟩) := by
  obtain ⟨id, kind, needs, inputs, outputs, action⟩ := s
  cases action with
  | materialize resources destination executables =>
    have hchanges : { p with steps := ⟨id, kind, needs, inputs, outputs,
          .materialize resources destination executables⟩ :: steps }.fileChanges k.resources =
        (id, materializeChanges k.resources p.path resources destination executables) ::
          { p with steps := steps }.fileChanges k.resources := rfl
    rw [hchanges, changeSteps, Pipeline.runStep]
    dsimp only
    rw [materialize, FileSystem.materialize]
    rcases FileSystem.permissive.changeAll t
      (materializeChanges k.resources p.path resources destination executables)
      with ⟨u, e | ⟨⟨⟩⟩⟩ <;> rfl
  | render templatesDir outputDir context => exact Bool.noConfusion h
  | archive sources target => exact Bool.noConfusion h
  | publish artifact classifier => exact Bool.noConfusion h

/-- The two loops side by side, from any step on. -/
theorem Pipeline.changeSteps_agrees (p : Pipeline) (source : ResourceSource)
    (answers : List Call → Call → Except Error Unit) (t : FileTree) (calls : List Call)
    (steps : List Step) :
    (t.changeSteps ({ p with steps := steps }.fileChanges source)).1 =
        t.after (p.runs source answers t calls steps) ∧
      ∀ f, (t.changeSteps ({ p with steps := steps }.fileChanges source)).2 = .error f ↔
        ∃ x ∈ p.runs source answers t calls steps, x.1.action.isMaterialize = true ∧
          x.1.id = f.step ∧ x.2.result = .error f.error := by
  induction steps generalizing t calls with
  | nil => exact ⟨rfl, fun f => ⟨nofun, fun ⟨x, hx, _⟩ => absurd hx List.not_mem_nil⟩⟩
  | cons s steps ih =>
    rw [runs, FileTree.after_cons]
    cases hkind : s.action.isMaterialize with
    | false =>
      obtain ⟨call, -, hrun⟩ := runStep_hands_over p hkind ⟨source, answers calls⟩ t
      rw [hrun, FileTree.changeSteps_of_hands_over hkind]
      simpa [hkind] using ih t (calls ++ [call])
    | true =>
      rw [FileTree.changeSteps_of_materialize hkind ⟨source, answers calls⟩]
      rcases p.runStep s ⟨source, answers calls⟩ t with ⟨u, new, e | ⟨⟨⟩⟩⟩
      · -- both loops end here
        refine ⟨rfl, fun f => ?_⟩
        obtain ⟨step, error⟩ := f
        simp [hkind, Except.isOk, Except.toBool]
      · simpa [hkind, Except.isOk, Except.toBool] using ih u (calls ++ new)

/-- To generate the files of a pipeline leaves the tree that its runs leave, and succeeds if no
materialization among these fails; then all steps have been run. Otherwise it fails with the error of
the one that does and the identifier of its step. Every other step, whatever has been run before it,
leaves the tree as it is and makes one call, the one of its action, and it ends as the collaborator
answers. -/
theorem Pipeline.generate_agrees (p : Pipeline) (source : ResourceSource)
    (answers : List Call → Call → Except Error Unit) (t : FileTree) :
    (t.generate source p).1 = t.after (p.runs source answers t [] p.steps) ∧
    ((t.generate source p).2 = .ok () ↔ ∀ x ∈ p.runs source answers t [] p.steps,
      x.1.action.isMaterialize = true → x.2.result = .ok ()) ∧
    (∀ f, (t.generate source p).2 = .error f ↔ ∃ x ∈ p.runs source answers t [] p.steps,
      x.1.action.isMaterialize = true ∧ x.1.id = f.step ∧ x.2.result = .error f.error) ∧
    (p.runs source answers t [] p.steps).map Prod.fst <+: p.steps ∧
    ((t.generate source p).2 = .ok () →
      (p.runs source answers t [] p.steps).map Prod.fst = p.steps) ∧
    ∀ s, s.action.isMaterialize = false → ∀ k u, ∃ call, s.action.calls = [call] ∧
      p.runStep s k u = ⟨u, [call], k.answer call⟩ := by
  obtain ⟨htree, herror⟩ := changeSteps_agrees p source answers t [] p.steps
  have hok : (t.generate source p).2 = .ok () ↔ ∀ x ∈ p.runs source answers t [] p.steps,
      x.1.action.isMaterialize = true → x.2.result = .ok () := by
    constructor
    · intro hok x hx hkind
      cases hresult : x.2.result with
      | ok a => rfl
      | error e =>
        have hfail := (herror ⟨x.1.id, e⟩).2 ⟨x, hx, hkind, rfl, hresult⟩
        cases hok.symm.trans hfail
    · intro hall
      cases hresult : (t.generate source p).2 with
      | ok a => rfl
      | error f =>
        obtain ⟨x, hx, hkind, -, hfail⟩ := (herror f).1 hresult
        cases (hall x hx hkind).symm.trans hfail
  exact ⟨htree, hok, herror, p.map_fst_runs_prefix, fun h => p.map_fst_runs (hok.1 h),
    fun s hs k u => runStep_hands_over p hs k u⟩

/-- A step that uploads, though its kind says that it copies. -/
def Step.mislabelledUpload : Step :=
  ⟨"upload", .materializeFixed, [], [], [], .publish ⟨"out/a"⟩ "alpha"⟩

/-- A pipeline whose kinds say nothing about its actions. -/
def Pipeline.mislabelled : Pipeline where
  trigger := ⟨"northAlpha"⟩
  repository := "north"
  hostname := "alpha"
  steps := [.mislabelledUpload,
    ⟨"copy", .publish, [], [], [], .materialize ["a"] ⟨"out"⟩ ["a"]⟩,
    ⟨"late", .render, [], [], [], .materialize ["b"] ⟨"out"⟩ []⟩,
    ⟨"never", .materializeTemplates, [], [], [], .archive [⟨"out"⟩] ⟨"out.zip"⟩⟩]

/-- Collaborators that refuse the first call. -/
def Call.refuseFirst (before : List Call) (_ : Call) : Except Error Unit :=
  if before.isEmpty then .error (.stepFailed "upload" "unavailable") else .ok ()

/-- From a source that has one of the two resources, generation fails at the third step, as the run
does. The upload that was refused has not ended the run. -/
theorem Pipeline.generate_agrees_mislabelled :
    let source := ResourceSource.ofList [("a", "a".toUTF8)]
    let runs := mislabelled.runs source Call.refuseFirst .empty [] mislabelled.steps
    runs.map (·.1.id) = ["upload", "copy", "late"] ∧
    (FileTree.empty.generate source mislabelled).1 = FileTree.empty.after runs ∧
    (FileTree.empty.generate source mislabelled).2 =
      .error ⟨"late", .resourceMissing "triggers/north/alpha" "b"⟩ ∧
    (∃ x ∈ runs, x.1.action.isMaterialize = true ∧ x.1.id = "late" ∧
      x.2.result = .error (.resourceMissing "triggers/north/alpha" "b")) ∧
    ∀ k u, mislabelled.runStep .mislabelledUpload k u =
      ⟨u, [.publish ⟨"out/a"⟩ "alpha"], k.answer (.publish ⟨"out/a"⟩ "alpha")⟩ := by
  intro source runs
  obtain ⟨htree, -, herror, -, -, hcalls⟩ :=
    generate_agrees mislabelled source Call.refuseFirst .empty
  have hfails : (FileTree.empty.generate source mislabelled).2 =
      .error ⟨"late", .resourceMissing "triggers/north/alpha" "b"⟩ := by
    decide +kernel
  refine ⟨by decide +kernel, htree, hfails, (herror _).1 hfails, fun k u => ?_⟩
  obtain ⟨call, hcall, hrun⟩ := hcalls .mislabelledUpload rfl k u
  obtain rfl := (List.cons.inj hcall).1
  exact hrun

end TriggerPlan
