import Mathlib.Data.List.Nodup

/-!
# Outcomes of computations that can fail

`Yields x P a` says all there is to say about the success of a computation: `x` succeeds exactly if
`P` holds, and then its result is `a`. The rules below put such statements together along the
structure of a program. A fold succeeds if each of its steps does (`Yields.foldlM`); if the steps
also refuse names that have been taken, the names have to be different (`Yields.foldlM_fresh`).
-/

namespace TriggerPlan

variable {ε α β σ κ : Type}

/-- The computation succeeds exactly if `P` holds, and its result is then `a`. -/
def Yields (x : Except ε α) (P : Prop) (a : α) : Prop :=
  ∀ b, x = .ok b ↔ P ∧ b = a

namespace Yields

variable {x : Except ε α} {P Q : Prop} {a : α}

/-! ## One computation -/

/-- It succeeds at all if and only if the condition holds. -/
theorem exists_iff (h : Yields x P a) : (∃ b, x = .ok b) ↔ P :=
  ⟨fun ⟨b, hb⟩ => ((h b).1 hb).1, fun hP => ⟨a, (h a).2 ⟨hP, rfl⟩⟩⟩

/-- Condition and result can be replaced by what they amount to. -/
theorem congr {b : α} (h : Yields x P a) (hPQ : P ↔ Q) (hab : P → a = b) : Yields x Q b := by
  intro c
  rw [h c, ← hPQ]
  constructor
  · rintro ⟨hP, rfl⟩
    exact ⟨hP, hab hP⟩
  · rintro ⟨hP, rfl⟩
    exact ⟨hP, (hab hP).symm⟩

theorem ok (a : α) (hP : P) : Yields (.ok a : Except ε α) P a := by
  intro b
  simp [hP, eq_comm]

theorem error (e : ε) (a : α) (hP : ¬P) : Yields (.error e : Except ε α) P a := by
  intro b
  simp [hP]

theorem map (h : Yields x P a) (f : α → β) : Yields (f <$> x) P (f a) := by
  intro b
  cases x with
  | error e =>
    have hP : ¬P := fun hP => by simpa using (h a).2 ⟨hP, rfl⟩
    simp [Functor.map, Except.map, hP]
  | ok c =>
    obtain ⟨hP, rfl⟩ := (h c).1 rfl
    simp [Functor.map, Except.map, hP, eq_comm]

/-- A sequence succeeds if both of its parts do. What is said of the second part may rest on the
success of the first. -/
theorem bind_of {f : α → Except ε β} {b : β} (h : Yields x P a) (hf : P → Yields (f a) Q b) :
    Yields (x >>= f) (P ∧ Q) b := by
  intro c
  cases x with
  | error e =>
    have hP : ¬P := fun hP => by simpa using (h a).2 ⟨hP, rfl⟩
    simp [Bind.bind, Except.bind, hP]
  | ok d =>
    obtain ⟨hP, rfl⟩ := (h d).1 rfl
    have hc : f d = .ok c ↔ Q ∧ c = b := hf hP c
    simp [Bind.bind, Except.bind, hP, hc]

theorem bind {f : α → Except ε β} {b : β} (h : Yields x P a) (hf : Yields (f a) Q b) :
    Yields (x >>= f) (P ∧ Q) b :=
  h.bind_of fun _ => hf

/-- A last step that cannot fail only changes the result. -/
theorem bind_pure (h : Yields x P a) (f : α → β) : Yields (x >>= fun a => pure (f a)) P (f a) :=
  (h.bind (ok (f a) trivial)).congr (and_iff_left trivial) fun _ => rfl

/-- What comes after a refusal succeeds if the refusal does not apply. -/
theorem refuse {p : Prop} [Decidable p] {e : ε} {y : Except ε α} (hy : y = .error e)
    (h : Yields x P a) : Yields (if p then y else x) (¬p ∧ P) a := by
  intro b
  by_cases hp : p
  · simp [hp, hy]
  · simp [hp, h b]

/-! ## Folds -/

/-- If a step succeeds on exactly the elements with `P`, whatever was reached before, then so does
the fold. -/
theorem foldlM {step : σ → α → Except ε σ} {P : α → Prop} {f : σ → α → σ}
    (hstep : ∀ s a, Yields (step s a) (P a) (f s a)) (l : List α) (s : σ) :
    Yields (l.foldlM step s) (∀ a ∈ l, P a) (l.foldl f s) := by
  induction l generalizing s with
  | nil => exact ok s (by simp)
  | cons a l ih =>
    rw [List.foldlM_cons, List.foldl_cons]
    exact ((hstep s a).bind (ih (f s a))).congr List.forall_mem_cons.symm fun _ => rfl

/-- If a step moreover refuses the names that are taken, and takes the name of its element, then the
fold succeeds on the lists whose names are all different and not taken before. -/
theorem foldlM_fresh {step : σ → α → Except ε σ} {P : α → Prop} {f : σ → α → σ} {name : α → κ}
    (taken : σ → κ → Prop) (hstep : ∀ s a, Yields (step s a) (P a ∧ ¬taken s (name a)) (f s a))
    (htaken : ∀ s a k, taken (f s a) k ↔ k = name a ∨ taken s k) (l : List α) (s : σ) :
    Yields (l.foldlM step s)
      ((∀ a ∈ l, P a) ∧ (l.map name).Nodup ∧ ∀ a ∈ l, ¬taken s (name a)) (l.foldl f s) := by
  induction l generalizing s with
  | nil => exact ok s (by simp)
  | cons a l ih =>
    rw [List.foldlM_cons, List.foldl_cons, List.map_cons, List.nodup_cons]
    refine ((hstep s a).bind (ih (f s a))).congr ?_ fun _ => rfl
    simp only [List.forall_mem_cons, htaken, not_or]
    -- not taken after `a` means not the name of `a` and not taken before; the first of the two is
    -- what makes the names different
    constructor
    · rintro ⟨⟨ha, hfree⟩, hl, hnodup, hrest⟩
      refine ⟨⟨ha, hl⟩, ⟨?_, hnodup⟩, hfree, fun b hb => (hrest b hb).2⟩
      intro hmem
      obtain ⟨b, hb, hab⟩ := List.mem_map.1 hmem
      exact (hrest b hb).1 hab
    · rintro ⟨⟨ha, hl⟩, ⟨hnew, hnodup⟩, hfree, hrest⟩
      refine ⟨⟨ha, hfree⟩, hl, hnodup, fun b hb => ⟨?_, hrest b hb⟩⟩
      exact fun hab => hnew (hab ▸ List.mem_map_of_mem hb)

end Yields

end TriggerPlan
