import Mathlib.Data.List.Basic
import Mathlib.Data.List.Induction
import TriggerPlan.Declaration.Basic

/-!
# The last value for a name

Several nodes of one level may set the same name; the last of them counts. Whatever is computed from
the nodes of a level one after the other, and is overwritten by each node that sets a name and kept
by all the others, is decided by the last value for that name (`foldl_eq_lastValue?`).
-/

namespace TriggerPlan

/-- Whether the node has a value and the given name. -/
def Node.sets (name : String) (n : Node) : Bool :=
  n.hasValues && n.name == name

/-- The value that a node carries. -/
def Node.value (n : Node) : Value :=
  n.arguments.headD .null

/-- The value that the last node with a value and the given name carries. -/
def lastValue? (name : String) (ns : List Node) : Option Value :=
  (ns.filter (·.sets name)).getLast?.map Node.value

theorem Node.sets_iff {name : String} {n : Node} :
    n.sets name = true ↔ n.hasValues = true ∧ n.name = name := by
  simp [Node.sets]

/-- A node at the end counts if it sets the name. -/
theorem lastValue?_concat (name : String) (ns : List Node) (n : Node) :
    lastValue? name (ns ++ [n]) = if n.sets name then some n.value else lastValue? name ns := by
  unfold lastValue?
  rw [List.filter_append]
  by_cases h : n.sets name = true
  · rw [if_pos h, List.filter_cons_of_pos (by exact h), List.filter_nil, List.getLast?_concat,
      Option.map_some]
  · rw [if_neg h, List.filter_cons_of_neg (by exact h), List.filter_nil, List.append_nil]

/-- The last value for a name is the value of a node that sets the name. -/
theorem exists_of_lastValue?_eq_some {name : String} {ns : List Node} {v : Value}
    (h : lastValue? name ns = some v) : ∃ n ∈ ns, n.sets name = true ∧ n.value = v := by
  obtain ⟨n, hn, rfl⟩ := Option.map_eq_some_iff.1 h
  obtain ⟨hmem, hsets⟩ := List.mem_filter.1 (List.mem_of_getLast? hn)
  exact ⟨n, hmem, hsets, rfl⟩

/-- What a step overwrites for the nodes that set a name, and keeps for the others, is decided by
the last value for the name. -/
theorem foldl_eq_lastValue? {σ τ : Type} {step : σ → Node → σ} (get : σ → τ) {put : Value → τ}
    {name : String} (hput : ∀ s n, n.sets name = true → get (step s n) = put n.value)
    (hkeep : ∀ s n, n.sets name = false → get (step s n) = get s) (ns : List Node) (s : σ) :
    get (ns.foldl step s) = (lastValue? name ns).elim (get s) put := by
  induction ns using List.reverseRecOn with
  | nil => rfl
  | append_singleton ns n ih =>
    rw [List.foldl_concat, lastValue?_concat]
    cases h : n.sets name with
    | true => rw [hput _ _ h, if_pos rfl, Option.elim_some]
    | false => rw [hkeep _ _ h, if_neg Bool.false_ne_true, ih]

end TriggerPlan
