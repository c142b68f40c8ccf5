import TriggerPlan.Proofs.Outcome

/-!
# Errors of computations that can fail

`Reports x P` says that `P` holds of the error in which `x` ends, if it ends in one. The rules below
go along the structure of a program as those for `Yields` do. What comes before an error has
succeeded: the second part of a sequence reports an error about a result of the first, and a fold
reports the error of one step, after all the steps before it (`Reports.foldlM`).
-/

namespace TriggerPlan

variable {ε α β σ : Type}

/-- If the computation fails, `P` holds of its error. -/
def Reports (x : Except ε α) (P : ε → Prop) : Prop :=
  ∀ e, x = .error e → P e

/-- A computation that ends in an error does not meet the condition of its success. -/
theorem Yields.not_of_error {x : Except ε α} {P : Prop} {a : α} {e : ε} (h : Yields x P a)
    (he : x = .error e) : ¬P := by
  intro hP
  have hok : x = .ok a := (h a).2 ⟨hP, rfl⟩
  rw [he] at hok
  exact nomatch hok

namespace Reports

variable {x y : Except ε α} {P Q : ε → Prop}

/-! ## One computation -/

theorem ok (a : α) : Reports (.ok a : Except ε α) P :=
  fun _ h => nomatch h

theorem error {e : ε} (he : P e) : Reports (.error e : Except ε α) P := by
  intro e' h
  obtain rfl := Except.error.inj h
  exact he

/-- What is reported may be said in weaker words. -/
theorem mono (h : Reports x P) (hPQ : ∀ e, P e → Q e) : Reports x Q :=
  fun e he => hPQ e (h e he)

/-- An error is only reported where the condition of success fails. -/
theorem and_not {C : Prop} {a : α} (h : Reports x P) (hx : Yields x C a) :
    Reports x fun e => P e ∧ ¬C :=
  fun e he => ⟨h e he, hx.not_of_error he⟩

theorem map (h : Reports x P) (f : α → β) : Reports (f <$> x) P := by
  intro e he
  cases x with
  | error e' => exact h e (congrArg Except.error (Except.error.inj he))
  | ok a => exact nomatch he

/-- The error of a sequence is that of one of its parts, the second of which starts from a result of
the first. -/
theorem bind {f : α → Except ε β} (h : Reports x P) (hf : ∀ a, x = .ok a → Reports (f a) P) :
    Reports (x >>= f) P := by
  intro e he
  cases x with
  | error e' => exact h e (congrArg Except.error (Except.error.inj he))
  | ok a => exact hf a rfl e he

/-- A refusal reports its error where it applies. -/
theorem refuse {p : Prop} [Decidable p] (hy : p → Reports y P) (h : ¬p → Reports x P) :
    Reports (if p then y else x) P := by
  split
  · exact hy ‹_›
  · exact h ‹_›

/-! ## Folds -/

/-- The error of a fold is that of one of its steps, at a state that the steps before it have
reached. -/
theorem foldlM {step : σ → α → Except ε σ} {l : List α} {s : σ}
    (h : ∀ pre a post t, l = pre ++ a :: post → pre.foldlM step s = .ok t →
      Reports (step t a) P) : Reports (l.foldlM step s) P := by
  induction l generalizing s with
  | nil => exact ok s
  | cons a l ih =>
    rw [List.foldlM_cons]
    refine (h [] a l s rfl rfl).bind fun t ht => ih fun pre b post u hl hu => ?_
    -- the steps before `b` start with that of `a`
    refine h (a :: pre) b post u (by rw [hl, List.cons_append]) ?_
    rw [List.foldlM_cons, ht]
    exact hu

end Reports

end TriggerPlan
