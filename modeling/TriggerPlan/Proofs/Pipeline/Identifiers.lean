import Mathlib.Data.List.Nodup
import Mathlib.Data.List.TakeWhile
import TriggerPlan.Pipeline.Basic

/-!
# Identifiers of steps

The identifier of a step tells its kind and the name of its trigger apart, also where the name has
underscores in it: the kind ends at the first underscore (`StepKind.stepId_injective`).
-/

namespace TriggerPlan

namespace StepKind

theorem not_mem_name (k : StepKind) : '_' ∉ k.name.toList := by
  cases k <;> decide

/-- Different kinds have different names. -/
theorem name_injective : Function.Injective name := by
  intro k k' h
  have hk : ofName? k.name = some k := ofName?_name k
  rw [h, ofName?_name] at hk
  exact (Option.some.inj hk).symm

theorem toList_stepId (k : StepKind) (t : TriggerName) :
    (k.stepId t).toList = k.name.toList ++ '_' :: t.text.toList := by
  rw [stepId, String.toList_append, String.toList_append, List.append_assoc]
  rfl

/-- The name of the kind is what comes before the first underscore. -/
theorem takeWhile_stepId (k : StepKind) (t : TriggerName) :
    (k.stepId t).toList.takeWhile (· ≠ '_') = k.name.toList := by
  have hname : ∀ c ∈ k.name.toList, decide (c ≠ '_') = true := by
    intro c hc
    rw [decide_eq_true_eq]
    rintro rfl
    exact k.not_mem_name hc
  have hend : ('_' :: t.text.toList).takeWhile (· ≠ '_') = [] := by simp
  rw [toList_stepId, List.takeWhile_append_of_pos hname, hend, List.append_nil]

/-- Steps of different kinds or of triggers with different names have different identifiers. -/
theorem stepId_injective {k k' : StepKind} {t t' : TriggerName} (h : k.stepId t = k'.stepId t') :
    k = k' ∧ t = t' := by
  have hname : k.name.toList = k'.name.toList := by
    rw [← takeWhile_stepId k t, ← takeWhile_stepId k' t', h]
  obtain rfl : k = k' := name_injective (String.toList_inj.1 hname)
  have htext : (k.stepId t).toList = (k.stepId t').toList := congrArg String.toList h
  rw [toList_stepId, toList_stepId] at htext
  have hrest : t.text.toList = t'.text.toList := (List.cons.inj (List.append_cancel_left htext)).2
  exact ⟨rfl, congrArg TriggerName.mk (String.toList_inj.1 hrest)⟩

end StepKind

end TriggerPlan
