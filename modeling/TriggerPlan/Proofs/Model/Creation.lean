import TriggerPlan.Model.Basic
import TriggerPlan.Proofs.Settings.Failure
import TriggerPlan.Proofs.SortedMap
import TriggerPlan.Proofs.Text.Blank

/-!
# Creation of entities

An entity is created if its name is not blank and not taken by another entity of the same parent; an
error says which of the two it is.
-/

namespace TriggerPlan

/-! ## Success -/

theorem checkName_yields (parent name : String) :
    Yields (checkName parent name) (¬Text.IsBlank name) () := by
  intro u
  rw [checkName_eq_ok_iff, Text.isBlank_eq_false_iff]
  exact (and_iff_left rfl).symm

theorem Repository.createTrigger_yields (r : Repository) (hostname : String) :
    Yields (r.createTrigger hostname)
      (¬Text.IsBlank hostname ∧ ¬r.triggers.contains hostname = true)
      (r.putTrigger (.new r.name hostname)) := by
  refine ((checkName_yields r.path hostname).bind
    (Yields.refuse rfl (Yields.ok _ trivial))).congr ?_ fun _ => rfl
  rw [and_true]

theorem Model.checkRepositoryName_yields (m : Model) (name : String) :
    Yields (m.checkRepositoryName name)
      (¬Text.IsBlank name ∧ ¬m.repositories.contains name = true) () := by
  refine ((checkName_yields rootPath name).bind
    (Yields.refuse rfl (Yields.ok _ trivial))).congr ?_ fun _ => rfl
  rw [and_true]

theorem Model.createRepository_yields (m : Model) (name : String) :
    Yields (m.createRepository name)
      (¬Text.IsBlank name ∧ ¬m.repositories.contains name = true)
      (m.putRepository (.new name)) :=
  (m.checkRepositoryName_yields name).bind_pure fun _ => m.putRepository (.new name)

/-- Of two triggers put under one hostname the second stays. -/
theorem Repository.putTrigger_putTrigger (r : Repository) (t t' : Trigger)
    (h : t.hostname = t'.hostname) : (r.putTrigger t).putTrigger t' = r.putTrigger t' := by
  rw [putTrigger, putTrigger, putTrigger, h]
  simp only [SortedMap.insert_insert]

/-! ## Errors -/

/-- A name is refused only if it is blank. -/
theorem checkName_reports (parent name : String) :
    Reports (checkName parent name) fun e => e.IsAbout parent "name" ∧ Text.IsBlank name :=
  Reports.refuse
    (fun h => Reports.error ⟨Error.isAbout .., Text.isBlank_eq_true_iff.1 h⟩)
    fun _ => Reports.ok ()

/-- A trigger is not created if its name is blank or taken. -/
theorem Repository.createTrigger_reports (r : Repository) (hostname : String) :
    Reports (r.createTrigger hostname) fun e =>
      (e.IsAbout r.path "name" ∧ Text.IsBlank hostname) ∨
        (r.triggers.contains hostname = true ∧ e = .duplicateEntity r.name .host hostname) :=
  ((checkName_reports r.path hostname).mono fun _ => .inl).bind fun _ _ =>
    Reports.refuse (fun htaken => Reports.error (.inr ⟨htaken, rfl⟩)) fun _ => Reports.ok _

/-- The name of a repository is refused if it is blank or taken. -/
theorem Model.checkRepositoryName_reports (m : Model) (name : String) :
    Reports (m.checkRepositoryName name) fun e =>
      (e.IsAbout rootPath "name" ∧ Text.IsBlank name) ∨
        (m.repositories.contains name = true ∧ e = .duplicateEntity rootPath .repository name) :=
  ((checkName_reports rootPath name).mono fun _ => .inl).bind fun _ _ =>
    Reports.refuse (fun htaken => Reports.error (.inr ⟨htaken, rfl⟩)) fun _ => Reports.ok _

/-- A repository is not created if its name is refused. -/
theorem Model.createRepository_reports (m : Model) (name : String) :
    Reports (m.createRepository name) fun e =>
      (e.IsAbout rootPath "name" ∧ Text.IsBlank name) ∨
        (m.repositories.contains name = true ∧ e = .duplicateEntity rootPath .repository name) :=
  (m.checkRepositoryName_reports name).bind fun _ _ => Reports.ok _

end TriggerPlan
