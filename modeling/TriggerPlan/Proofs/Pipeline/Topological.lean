import Mathlib.Data.Fintype.Card
import Mathlib.Data.Fintype.EquivFin
import Mathlib.Data.Fintype.Sets
import Mathlib.Data.List.Nodup
import Mathlib.Order.WellFounded
import TriggerPlan.Proofs.Pipeline.Order

/-!
# Topological orders

The check of a pipeline goes through its steps once and keeps the identifiers that it has met. It
accepts exactly the lists in which all that a step needs stands before it (`orderedAfter_iff`).
Steps with different identifiers can be brought into such an order if and only if nothing that they
need is missing and no step comes to need itself: going along the needs leads to earlier steps
(`reaches_before`), and where they run in no circle some step needs none of the others
(`exists_needs_none`), so it can be put first.
-/

namespace TriggerPlan

/-! ## Needs among steps -/

/-- Among some steps, the first one needs the second. -/
structure Step.NeedsIn (steps : List Step) (s t : Step) : Prop where
  source : s ∈ steps
  target : t ∈ steps
  needed : t.id ∈ s.needs

/-- The first step leads to the second through one or more needs among some steps. -/
def Step.Reaches (steps : List Step) : Step → Step → Prop :=
  Relation.TransGen (Step.NeedsIn steps)

theorem Step.NeedsIn.of_subset {steps steps' : List Step} (hsub : steps ⊆ steps') {s t : Step}
    (h : Step.NeedsIn steps s t) : Step.NeedsIn steps' s t :=
  ⟨hsub h.source, hsub h.target, h.needed⟩

theorem Step.Reaches.of_subset {steps steps' : List Step} (hsub : steps ⊆ steps') {s t : Step}
    (h : Step.Reaches steps s t) : Step.Reaches steps' s t :=
  Relation.TransGen.mono (fun _ _ => Step.NeedsIn.of_subset hsub) _ _ h

/-- Going along the needs leads to earlier steps. -/
theorem reaches_before {order : List Step} (horder : RespectsNeeds order) {s t : Step}
    (h : Step.Reaches order s t) : Step.Before order t s := by
  induction h with
  | single hneeds => exact horder _ hneeds.source _ hneeds.target hneeds.needed
  | tail _ hneeds ih =>
    have hbefore := horder _ hneeds.source _ hneeds.target hneeds.needed
    exact hbefore.trans ih

/-- Where the needs run in no circle, some step needs none of the others. -/
theorem exists_needs_none {steps : List Step} (hne : steps ≠ [])
    (hacyclic : ∀ s ∈ steps, ¬Step.Reaches steps s s) :
    ∃ s ∈ steps, ∀ t ∈ steps, t.id ∉ s.needs := by
  -- to be reached is a strict order on finitely many steps, so there is a least one
  let Reached (t s : {s // s ∈ steps}) : Prop := Step.Reaches steps s t
  have htrans : IsTrans _ Reached := ⟨fun _ _ _ hts hsr => hsr.trans hts⟩
  have hirrefl : Std.Irrefl Reached := ⟨fun s => hacyclic s s.2⟩
  have hfounded : WellFounded Reached := Finite.wellFounded_of_trans_of_irrefl Reached
  obtain ⟨first, hfirst⟩ := List.exists_mem_of_ne_nil steps hne
  obtain ⟨s, -, hleast⟩ := hfounded.has_min Set.univ ⟨⟨first, hfirst⟩, trivial⟩
  refine ⟨s, s.2, ?_⟩
  intro t ht hneeded
  apply hleast ⟨t, ht⟩ trivial
  exact .single ⟨s.2, ht, hneeded⟩

namespace Pipeline

/-! ## Going through the steps -/

/-- Steps are accepted if each of them needs only what has been met before all of them, or stands
before it. -/
theorem orderedAfter_iff (seen : List String) (steps : List Step) :
    orderedAfter seen steps = true ↔
      ∀ i (hi : i < steps.length), ∀ id ∈ steps[i].needs,
        id ∈ seen ∨ ∃ j, ∃ hj : j < i, steps[j].id = id := by
  induction steps generalizing seen with
  | nil => simp [orderedAfter]
  | cons s steps ih =>
    have hfirst : s.needs.all seen.contains = true ↔ ∀ id ∈ s.needs, id ∈ seen := by simp
    rw [orderedAfter, Bool.and_eq_true, hfirst, ih]
    constructor
    · rintro ⟨hs, hsteps⟩ i hi id hid
      cases i with
      | zero => exact .inl (hs id hid)
      | succ i =>
        have hi' : i < steps.length := by simpa using hi
        rcases hsteps i hi' id hid with hseen | ⟨j, hj, hjid⟩
        · rcases List.mem_cons.1 hseen with rfl | hseen
          · exact .inr ⟨0, by omega, rfl⟩
          · exact .inl hseen
        · exact .inr ⟨j + 1, by omega, hjid⟩
    · intro h
      constructor
      · intro id hid
        rcases h 0 (by simp) id hid with hseen | ⟨j, hj, -⟩
        · exact hseen
        · omega
      · intro i hi id hid
        have hi' : i + 1 < (s :: steps).length := by simpa using hi
        rcases h (i + 1) hi' id hid with hseen | ⟨j, hj, hjid⟩
        · exact .inl (List.mem_cons_of_mem s.id hseen)
        · cases j with
          | zero => exact .inl (List.mem_cons.2 (.inl hjid.symm))
          | succ j => exact .inr ⟨j, by omega, hjid⟩

/-- An accepted list of steps with different identifiers respects their needs. -/
theorem respectsNeeds_of_orderedAfter {order : List Step} (hids : (order.map (·.id)).Nodup)
    (h : orderedAfter [] order = true) : RespectsNeeds order := by
  intro s hs t ht hneeded
  have hsi : order.idxOf s < order.length := List.idxOf_lt_length_of_mem hs
  have hti : order.idxOf t < order.length := List.idxOf_lt_length_of_mem ht
  rw [← List.getElem_idxOf hsi] at hneeded
  rcases (orderedAfter_iff [] order).1 h _ hsi _ hneeded with hseen | ⟨j, hj, hjid⟩
  · exact absurd hseen List.not_mem_nil
  · -- the identifier stands at one place only, which is that of the needed step
    have hji : j < (order.map (·.id)).length := by simp; omega
    have hti' : order.idxOf t < (order.map (·.id)).length := by simpa using hti
    have hsame : (order.map (·.id))[j] = (order.map (·.id))[order.idxOf t] := by simp [hjid]
    have hplace : j = order.idxOf t := hids.getElem_inj_iff.1 hsame
    rw [hplace] at hj
    exact hj

/-- What the steps of an accepted list need is among them. -/
theorem exists_id_eq_of_orderedAfter {order : List Step} (h : orderedAfter [] order = true) :
    ∀ s ∈ order, ∀ id ∈ s.needs, ∃ t ∈ order, t.id = id := by
  intro s hs id hid
  obtain ⟨i, hi, rfl⟩ := List.mem_iff_getElem.1 hs
  rcases (orderedAfter_iff [] order).1 h i hi id hid with hseen | ⟨j, hj, rfl⟩
  · exact absurd hseen List.not_mem_nil
  · exact ⟨order[j], List.getElem_mem _, rfl⟩

/-- In an accepted list of steps with different identifiers no step reaches itself. -/
theorem not_reaches_self_of_orderedAfter {order : List Step} (hids : (order.map (·.id)).Nodup)
    (h : orderedAfter [] order = true) (s : Step) : ¬Step.Reaches order s s := by
  intro hcircle
  have hbefore := reaches_before (respectsNeeds_of_orderedAfter hids h) hcircle
  exact Nat.lt_irrefl _ hbefore

/-! ## Finding an order -/

/-- The needs of some steps lead nowhere but to these steps and to what has been met before, and
they run in no circle. -/
structure IsOrderable (seen : List String) (steps : List Step) : Prop where
  closed : ∀ s ∈ steps, ∀ id ∈ s.needs, id ∈ seen ∨ ∃ t ∈ steps, t.id = id
  acyclic : ∀ s ∈ steps, ¬Step.Reaches steps s s

/-- A step that is met is taken away from the steps. -/
theorem IsOrderable.erase {seen : List String} {steps : List Step} (h : IsOrderable seen steps)
    (s : Step) : IsOrderable (s.id :: seen) (steps.erase s) := by
  have hsub : steps.erase s ⊆ steps := List.erase_subset
  constructor
  · intro t ht id hid
    rcases h.closed t (hsub ht) id hid with hseen | ⟨u, hu, rfl⟩
    · exact .inl (List.mem_cons_of_mem s.id hseen)
    · by_cases hus : u = s
      · exact .inl (List.mem_cons.2 (.inl (congrArg _ hus)))
      · exact .inr ⟨u, (List.mem_erase_of_ne hus).2 hu, rfl⟩
  · intro t ht hcircle
    exact h.acyclic t (hsub ht) (hcircle.of_subset hsub)

/-- Such steps can be brought into an accepted order. -/
theorem IsOrderable.exists_orderedAfter {seen : List String} {steps : List Step}
    (h : IsOrderable seen steps) :
    ∃ order, order.Perm steps ∧ orderedAfter seen order = true := by
  induction hlength : steps.length generalizing seen steps with
  | zero =>
    obtain rfl := List.length_eq_zero_iff.1 hlength
    exact ⟨[], .refl [], rfl⟩
  | succ n ih =>
    have hne : steps ≠ [] := by
      rintro rfl
      simp at hlength
    -- the step that needs none of the others goes first
    obtain ⟨s, hs, hnone⟩ := exists_needs_none hne h.acyclic
    have hlength' : (steps.erase s).length = n := by
      rw [List.length_erase_of_mem hs]
      omega
    obtain ⟨order, horder, hordered⟩ := ih (h.erase s) hlength'
    refine ⟨s :: order, (horder.cons s).trans (List.perm_cons_erase hs).symm, ?_⟩
    have hfirst : ∀ id ∈ s.needs, id ∈ seen := by
      intro id hid
      rcases h.closed s hs id hid with hseen | ⟨t, ht, rfl⟩
      · exact hseen
      · exact absurd hid (hnone t ht)
    rw [orderedAfter, hordered, Bool.and_true]
    simpa using hfirst

/-- A pipeline is ordered if and only if each of its steps needs only steps that stand before it.
Steps with different identifiers can be brought into an order if and only if each identifier that
they need is that of a step and no step reaches itself. -/
theorem isOrdered_topological :
    (∀ p : Pipeline, p.isOrdered = true ↔
      ∀ i (hi : i < p.steps.length), ∀ id ∈ p.steps[i].needs,
        ∃ j, ∃ hj : j < i, p.steps[j].id = id) ∧
    ∀ p : Pipeline, (p.steps.map (·.id)).Nodup →
      ((∃ order, order.Perm p.steps ∧ { p with steps := order }.isOrdered = true) ↔
        (∀ s ∈ p.steps, ∀ id ∈ s.needs, ∃ t ∈ p.steps, t.id = id) ∧
          ∀ s ∈ p.steps, ¬Step.Reaches p.steps s s) := by
  constructor
  · intro p
    rw [isOrdered, orderedAfter_iff]
    simp
  · intro p hids
    constructor
    · rintro ⟨order, hperm, hordered⟩
      have hids' : (order.map (·.id)).Nodup := (hperm.map _).nodup_iff.2 hids
      constructor
      · intro s hs id hid
        obtain ⟨t, ht, htid⟩ :=
          exists_id_eq_of_orderedAfter hordered s (hperm.mem_iff.2 hs) id hid
        exact ⟨t, hperm.mem_iff.1 ht, htid⟩
      · intro s _ hcircle
        exact not_reaches_self_of_orderedAfter hids' hordered s
          (hcircle.of_subset hperm.symm.subset)
    · rintro ⟨hclosed, hacyclic⟩
      have horderable : IsOrderable [] p.steps :=
        ⟨fun s hs id hid => .inr (hclosed s hs id hid), hacyclic⟩
      exact horderable.exists_orderedAfter

/-- Three steps, from the last one to the first. -/
def backwards : Pipeline :=
  let step (kind : StepKind) (needs : List String) : Step :=
    ⟨kind.name, kind, needs, [], [], .archive [] ⟨"out.zip"⟩⟩
  ⟨⟨"rX"⟩, "r", "x",
    [step .publish ["archive", "archive"], step .archive ["render"], step .render []]⟩

/-- As they are listed they are not in order, but they can be brought into one, so none of them
reaches itself. -/
theorem reaches_of_backwards :
    backwards.isOrdered = false ∧ (backwards.steps.map (·.id)).Nodup ∧
      { backwards with steps := backwards.steps.reverse }.isOrdered = true ∧
      ∀ s ∈ backwards.steps, ¬Step.Reaches backwards.steps s s := by
  have hids : (backwards.steps.map (·.id)).Nodup := by decide
  have hordered : { backwards with steps := backwards.steps.reverse }.isOrdered = true := by decide
  obtain ⟨-, hacyclic⟩ := (isOrdered_topological.2 backwards hids).1
    ⟨backwards.steps.reverse, List.reverse_perm _, hordered⟩
  exact ⟨by decide, hids, hordered, hacyclic⟩

end Pipeline

end TriggerPlan
