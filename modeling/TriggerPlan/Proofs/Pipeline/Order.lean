import Mathlib.Data.List.Basic
import TriggerPlan.Pipeline.Basic

/-!
# Orders of steps

Steps are run one after the other in some order, which may mix those of many pipelines. An order
respects the needs of its steps if each of them comes after all that it needs. What has to hold for
the steps of one pipeline in such an order is `Pipeline.RunsIn`.
-/

namespace TriggerPlan

/-! ## Orders that respect the needs -/

/-- In the order the first step comes before the second. -/
def Step.Before (order : List Step) (t s : Step) : Prop :=
  order.idxOf t < order.idxOf s

instance (order : List Step) (t s : Step) : Decidable (Step.Before order t s) :=
  inferInstanceAs (Decidable (_ < _))

/-- Each step comes after every step whose identifier it needs. -/
def RespectsNeeds (order : List Step) : Prop :=
  ∀ s ∈ order, ∀ t ∈ order, t.id ∈ s.needs → Step.Before order t s

instance (order : List Step) : Decidable (RespectsNeeds order) :=
  inferInstanceAs (Decidable (∀ s ∈ order, ∀ t ∈ order, t.id ∈ s.needs → Step.Before order t s))

theorem Step.Before.trans {order : List Step} {r s t : Step} (h : Step.Before order r s)
    (h' : Step.Before order s t) : Step.Before order r t :=
  Nat.lt_trans h h'

/-- An order in which no step needs itself or one that comes later respects the needs. -/
theorem respectsNeeds_of_pairwise {order : List Step} (hself : ∀ s ∈ order, s.id ∉ s.needs)
    (hlater : order.Pairwise fun s t => t.id ∉ s.needs) : RespectsNeeds order := by
  intro s hs t ht hneeds
  by_contra hnot
  have hle : order.idxOf s ≤ order.idxOf t := Nat.le_of_not_lt hnot
  rcases Nat.eq_or_lt_of_le hle with heq | hlt
  · obtain rfl : s = t := (List.idxOf_inj hs).1 heq
    exact hself s hs hneeds
  · have hbound : order.idxOf t < order.length := List.idxOf_lt_length_of_mem ht
    have hnever := List.pairwise_iff_getElem.1 hlater _ _ (Nat.lt_trans hlt hbound) hbound hlt
    rw [List.getElem_idxOf, List.getElem_idxOf] at hnever
    exact hnever hneeds

/-! ## Running a pipeline in an order -/

/-- The step makes the path: as one of its outputs, or as the directory it copies resources to. -/
def Step.Makes (s : Step) (path : Path) : Prop :=
  path ∈ s.outputs ∨
    ∃ resources executables, s.action = .materialize resources path executables

/-- What the steps of a pipeline find when they are run in an order, among other steps. -/
structure Pipeline.RunsIn (p : Pipeline) (order : List Step) : Prop where
  /-- There is one step of each kind. -/
  kinds : p.steps.map (·.kind) = StepKind.all
  /-- What a step reads has been made by a step of the pipeline. -/
  inputs : ∀ s ∈ p.steps, ∀ path ∈ s.inputs,
    ∃ t ∈ p.steps, Step.Before order t s ∧ t.Makes path
  /-- The archive is packed after the copying and the rendering. -/
  archive : ∀ s ∈ p.steps, s.kind = .archive → ∀ t ∈ p.steps,
    t.kind = .materializeFixed ∨ t.kind = .materializeTemplates ∨ t.kind = .render →
      Step.Before order t s
  /-- The archive is published after it was packed. -/
  publish : ∀ s ∈ p.steps, s.kind = .publish → ∀ t ∈ p.steps, t.kind = .archive →
    Step.Before order t s
  /-- What is published is the archive, and what is packed is the one directory to which the wrapper
  is copied and the templates are rendered. -/
  artifact : ∃ file directory classifier templatesDir context resources executables,
    (p.step? .publish).map (·.action) = some (.publish file classifier) ∧
    (p.step? .archive).map (·.action) = some (.archive [directory] file) ∧
    (p.step? .render).map (·.action) = some (.render templatesDir directory context) ∧
    (p.step? .materializeFixed).map (·.action) =
      some (.materialize resources directory executables)

end TriggerPlan
