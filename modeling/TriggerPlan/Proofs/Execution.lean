import TriggerPlan.Execution
import TriggerPlan.Proofs.Materialize

/-!
# Runs of materializing steps

Each step that materializes resources settles its own demands, so a run of several steps settles the
demands of all of them, whatever order they come in. Since the demands agree on contents, no order is
better than another: if one of them succeeds, then all of them do, and they leave the same tree
(`runSteps_perm`).
-/

namespace TriggerPlan

open FileTree

/-! ## Actions that copy -/

/-- An action that copies resources which triggers need, and marks some of the copies. -/
inductive Action.Copies : Action → Prop where
  | materialize {resources executables : List String} (destination : Path)
    (hresources : resources ⊆ neededResources) (hexecutables : executables ⊆ resources) :
    Copies (.materialize resources destination executables)

/-- The resources that an action copies. -/
def Action.copied : Action → List String
  | .materialize resources _ _ => resources
  | _ => []

/-- The demands of the copies that an action makes. -/
def Action.demands (source : ResourceSource) : Action → List Demand
  | .materialize resources destination executables =>
    materializeDemands destination source resources executables
  | _ => []

theorem Action.Copies.contentsFrom {a : Action} (h : a.Copies) (source : ResourceSource) :
    ContentsFrom (contentAt source) (a.demands source) := by
  cases h with
  | materialize destination hresources hexecutables =>
    exact contentsFrom_materializeDemands hresources

/-! ## Actions that are handed over -/

/-- The calls to collaborators that an action makes. -/
def Action.calls : Action → List Call
  | .materialize .. => []
  | .render templatesDir outputDir context => [.render templatesDir outputDir context]
  | .archive sources target => [.archive sources target]
  | .publish artifact classifier => [.publish artifact classifier]

/-- Whether an action materializes resources. Every other action is handed to a collaborator. -/
def Action.isMaterialize : Action → Bool
  | .materialize .. => true
  | _ => false

theorem Action.Copies.isMaterialize_eq_true {a : Action} (h : a.Copies) :
    a.isMaterialize = true := by
  cases h
  rfl

/-- An action that copies calls nobody. -/
theorem Action.Copies.calls_eq_nil {a : Action} (h : a.Copies) : a.calls = [] := by
  cases h
  rfl

/-- A step that is handed over leaves the tree as it is and makes one call, which is up to its action
alone; how it ends is what the collaborator answers. -/
theorem runStep_hands_over (p : Pipeline) {s : Step} (h : s.action.isMaterialize = false)
    (k : Collaborators) (t : FileTree) :
    ∃ call, s.action.calls = [call] ∧ p.runStep s k t = ⟨t, [call], k.answer call⟩ := by
  obtain ⟨id, kind, needs, inputs, outputs, action⟩ := s
  cases action with
  | materialize resources destination executables => exact Bool.noConfusion h
  | render templatesDir outputDir context => exact ⟨_, rfl, rfl⟩
  | archive sources target => exact ⟨_, rfl, rfl⟩
  | publish artifact classifier => exact ⟨_, rfl, rfl⟩

/-! ## Running steps -/

theorem runStep_settles (p : Pipeline) {s : Step} (h : s.action.Copies) (k : Collaborators) :
    Settles (fun t => success ((p.runStep s k t).tree, (p.runStep s k t).result))
      (∀ r ∈ s.action.copied, k.resources.contains r = true) (s.action.demands k.resources) := by
  obtain ⟨id, kind, needs, inputs, outputs, action⟩ := s
  cases h with
  | materialize destination hresources hexecutables =>
    exact materialize_settles p.path hresources hexecutables

namespace FileTree

/-- Runs steps of pipelines in a given order, until one of them fails. -/
def runSteps (k : Collaborators) (t : FileTree) : List (Pipeline × Step) → FileTree × Except Error Unit
  | [] => (t, .ok ())
  | (p, s) :: steps =>
    match p.runStep s k t with
    | ⟨t, _, .ok ()⟩ => t.runSteps k steps
    | ⟨t, _, .error e⟩ => (t, .error e)

variable {k : Collaborators} {t t' : FileTree} {order order' : List (Pipeline × Step)}

theorem success_runSteps (t : FileTree) (order : List (Pipeline × Step)) :
    success (t.runSteps k order) = order.foldlM (fun t x =>
      success ((x.1.runStep x.2 k t).tree, (x.1.runStep x.2 k t).result)) t := by
  induction order generalizing t with
  | nil => rfl
  | cons x order ih =>
    rw [runSteps, List.foldlM_cons]
    rcases x.1.runStep x.2 k t with ⟨u, calls, e | ⟨⟨⟩⟩⟩
    · rfl
    · exact ih u

theorem runSteps_settles (h : ∀ x ∈ order, x.2.action.Copies) (k : Collaborators) :
    Settles (fun t => success (t.runSteps k order))
      (∀ x ∈ order, ∀ r ∈ x.2.action.copied, k.resources.contains r = true)
      (order.flatMap fun x => x.2.action.demands k.resources) := by
  have hall := Settles.foldlM fun x hx => runStep_settles x.1 (h x hx) k
  intro t
  beta_reduce
  rw [success_runSteps]
  exact hall t

/-- If steps that copy succeed in one order, then they do in every order, and leave the same tree. -/
theorem runSteps_perm (h : ∀ x ∈ order, x.2.action.Copies) (horder : order.Perm order')
    (hrun : t.runSteps k order = (t', .ok ())) : t.runSteps k order' = (t', .ok ()) := by
  rw [← success_eq_ok_iff] at hrun ⊢
  have h' : ∀ x ∈ order', x.2.action.Copies := fun x hx => h x (horder.mem_iff.2 hx)
  obtain ⟨⟨hsource, hcan⟩, rfl⟩ := (runSteps_settles h k t t').1 hrun
  refine (runSteps_settles h' k t _).2 ⟨⟨fun x hx => hsource x (horder.mem_iff.2 hx), ?_⟩, ?_⟩
  · exact (canSettle_perm (horder.flatMap_right _)).1 hcan
  · exact hcan.settle_perm (contentsFrom_flatMap fun x hx => (h x hx).contentsFrom k.resources)
      (horder.flatMap_right _)

end FileTree

end TriggerPlan
