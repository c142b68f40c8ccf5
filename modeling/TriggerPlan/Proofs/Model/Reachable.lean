import TriggerPlan.Proofs.Model.Operation

/-!
# Reachable models

The models that runs of operations leave, starting with the new model, are exactly the consistent
ones (`Model.isReachable_iff_isConsistent`). A run towards a consistent model changes the global
layer, creates the repositories one after the other, and in each of them the triggers one after the
other; as soon as an entity is there, its layer is changed into the one that it has in the model.
-/

namespace TriggerPlan

/-! ## Operations that can be carried out -/

/-- A change that can be made to a layer is made to the layer of an entity. -/
theorem Edit.changeLayer_eq_ok {σ : Type} {s : σ} {change : LayerChange}
    (h : change.IsAcceptable) (layer : σ → Layer) (path : σ → String) (put : σ → Layer → σ) :
    Edit.update (fun s => put s <$> (layer s).change (path s) change) s =
      .ok () (put s ((layer s).changed change)) := by
  have hyields := ((layer s).change_yields (path s) change).map (put s)
  exact update_eq_ok ((hyields _).2 ⟨h, rfl⟩)

/-- An edit of a repository that the model has leaves the edited repository in it. -/
theorem Model.inRepository_eq_ok {m : Model} {name : String} {r r' : Repository}
    (hr : m.repository? name = some r) {edit : Edit Repository Unit} (h : edit r = .ok () r') :
    inRepository name edit m = .ok () (m.putRepository r') :=
  Edit.inPart_eq_ok hr h

/-- An operation is carried out if it leads to a model. -/
theorem Operation.Leads.perform_eq_ok {m m' : Model} {op : Operation} (h : op.Leads m m')
    (hm : m.IsConsistent) : op.perform m = .ok () m' := by
  cases h with
  | createRepository named free =>
    have hfree := Option.not_isSome_iff_eq_none.2 free
    exact Edit.update_eq_ok ((m.createRepository_yields _ _).2 ⟨⟨named, hfree⟩, rfl⟩)
  | @createTrigger name hostname r owner named free =>
    have hname : r.name = name := hm.stored _ _ owner
    have hfree := Option.not_isSome_iff_eq_none.2 free
    rw [← hname]
    rw [← hname] at owner
    exact Model.inRepository_eq_ok owner
      (Edit.update_eq_ok ((r.createTrigger_yields hostname _).2 ⟨⟨named, hfree⟩, rfl⟩))
  | setContextUrl owner => exact Model.inRepository_eq_ok owner rfl
  | setRepoKey owner => exact Model.inRepository_eq_ok owner rfl
  | changeGlobal acceptable => exact Edit.changeLayer_eq_ok acceptable ..
  | changeRepository owner acceptable =>
    exact Model.inRepository_eq_ok owner (Edit.changeLayer_eq_ok acceptable ..)
  | changeTrigger owner trigger acceptable =>
    exact Model.inRepository_eq_ok owner
      (Edit.inPart_eq_ok trigger (Edit.changeLayer_eq_ok acceptable ..))

/-- What is kept by every change that can be made to a layer holds of all layers if it holds of one:
some assignments make any layer out of any other. -/
theorem Layer.of_changed {P : Layer → Prop}
    (hP : ∀ l change, LayerChange.IsAcceptable change → P l → P (l.changed change)) {l : Layer}
    (hl : P l) (l' : Layer) : P l' := by
  rw [← l'.foldl_put_value l]
  generalize SettingKey.all = keys
  induction keys generalizing l with
  | nil => exact hl
  | cons key keys ih =>
    rw [List.foldl_cons]
    exact ih (hP l (.assign key (l'.value key)) (l'.accepts_value key) hl)

/-! ## Runs from the new model -/

namespace Model

/-- Some run of operations leaves the model. -/
def IsReachable (m : Model) : Prop :=
  ∃ ops, Model.new.attemptAll ops = m

namespace IsReachable

variable {m m' : Model}

theorem new : Model.new.IsReachable :=
  ⟨[], rfl⟩

theorem isConsistent (h : m.IsReachable) : m.IsConsistent := by
  obtain ⟨ops, rfl⟩ := h
  exact isConsistent_new.attemptAll ops

/-- A run can be continued by an operation that leads on. -/
theorem step (h : m.IsReachable) {op : Operation} (hop : op.Leads m m') : m'.IsReachable := by
  have hok : op.perform m = .ok () m' := hop.perform_eq_ok h.isConsistent
  obtain ⟨ops, rfl⟩ := h
  refine ⟨ops ++ [op], ?_⟩
  rw [attemptAll_append, attempt_of_ok hok]

/-! ## Layers -/

/-- The global layer can be changed into any other. -/
theorem withSettings (h : m.IsReachable) (l : Layer) : IsReachable { m with settings := l } := by
  refine Layer.of_changed (P := fun l => IsReachable { m with settings := l }) ?_ h l
  intro l change hchange hl
  exact hl.step (.changeGlobal hchange)

end IsReachable

/-- Of two repositories put under one name the second stays. -/
theorem putRepository_putRepository (m : Model) {r r' : Repository} (h : r.name = r'.name) :
    (m.putRepository r).putRepository r' = m.putRepository r' := by
  rw [putRepository, putRepository, putRepository, h]
  simp only [SortedMap.insert_insert]

/-- A repository that was put into a model is found there. -/
theorem repository?_putRepository_self (m : Model) (r : Repository) :
    (m.putRepository r).repository? r.name = some r := by
  rw [repository?_putRepository, if_pos rfl]

namespace IsReachable

variable {m : Model} {r r' : Repository}

/-- A run can be continued by an operation that replaces a repository. -/
theorem replace (h : (m.putRepository r).IsReachable) (hname : r.name = r'.name) {op : Operation}
    (hop : op.Leads (m.putRepository r) ((m.putRepository r).putRepository r')) :
    (m.putRepository r').IsReachable := by
  rw [← m.putRepository_putRepository hname]
  exact h.step hop

/-- The layer of a repository can be changed into any other. -/
theorem withRepositorySettings (h : (m.putRepository r).IsReachable) (l : Layer) :
    (m.putRepository { r with settings := l }).IsReachable := by
  refine Layer.of_changed (P := fun l => (m.putRepository { r with settings := l }).IsReachable)
    ?_ h l
  intro l change hchange hl
  exact hl.replace rfl (.changeRepository (m.repository?_putRepository_self _) hchange)

/-- The layer of a trigger can be changed into any other. -/
theorem withTriggerSettings {t : Trigger} (h : (m.putRepository (r.putTrigger t)).IsReachable)
    (l : Layer) : (m.putRepository (r.putTrigger { t with settings := l })).IsReachable := by
  refine Layer.of_changed
    (P := fun l => (m.putRepository (r.putTrigger { t with settings := l })).IsReachable) ?_ h l
  intro l change hchange hl
  have htrigger : (r.putTrigger { t with settings := l }).trigger? t.hostname =
      some { t with settings := l } := by
    rw [Repository.trigger?_putTrigger, if_pos rfl]
  have hput : (r.putTrigger { t with settings := l }).putTrigger
      { t with settings := l.changed change } =
        r.putTrigger { t with settings := l.changed change } :=
    r.putTrigger_putTrigger _ _ rfl
  rw [← hput]
  exact hl.replace rfl (.changeTrigger (m.repository?_putRepository_self _) htrigger hchange)

/-! ## Entities -/

/-- A trigger can be added to a repository. -/
theorem addTrigger (h : (m.putRepository r).IsReachable) {t : Trigger}
    (ht : t.IsOf r.name t.hostname) (hfree : r.trigger? t.hostname = none) :
    (m.putRepository (r.putTrigger t)).IsReachable := by
  have hnew : (m.putRepository (r.putTrigger (.new r.name t.hostname))).IsReachable :=
    h.replace rfl (.createTrigger (m.repository?_putRepository_self r) ht.named hfree)
  rw [ht.eq_new]
  exact hnew.withTriggerSettings t.settings

/-- A repository can be added to a model, with everything that it has. -/
theorem addRepository (h : m.IsReachable) (hr : r.IsConsistent)
    (hfree : m.repository? r.name = none) : (m.putRepository r).IsReachable := by
  have hnew : (m.putRepository (.new r.name)).IsReachable :=
    h.step (.createRepository hr.named hfree)
  have hurl : (m.putRepository { Repository.new r.name with
      contextUrl := r.contextUrl }).IsReachable :=
    hnew.replace rfl (.setContextUrl (m.repository?_putRepository_self _))
  have hkey : (m.putRepository { Repository.new r.name with
      contextUrl := r.contextUrl, repoKey := r.repoKey }).IsReachable :=
    hurl.replace rfl (.setRepoKey (m.repository?_putRepository_self _))
  have hbare : (m.putRepository { r with triggers := .empty }).IsReachable :=
    hkey.withRepositorySettings r.settings
  -- the triggers come into the repository one after the other
  refine r.triggers.induction_insert
    (P := fun triggers => (m.putRepository { r with triggers := triggers }).IsReachable) hbare ?_
  intro triggers hostname t ht hnone hdone
  have hof : t.IsOf r.name hostname := hr.triggers hostname t ht
  obtain rfl : t.hostname = hostname := hof.hostname
  exact hdone.addTrigger hof hnone

end IsReachable

/-- A consistent model can be built up by a run. -/
theorem IsConsistent.isReachable {m : Model} (hm : m.IsConsistent) : m.IsReachable := by
  have hbare : IsReachable ⟨m.settings, .empty⟩ := IsReachable.new.withSettings m.settings
  refine m.repositories.induction_insert
    (P := fun repositories => IsReachable ⟨m.settings, repositories⟩) hbare ?_
  intro repositories name r hr hnone hdone
  obtain rfl : r.name = name := hm.stored name r hr
  exact hdone.addRepository (hm.repositories _ r hr) hnone

/-- The models that runs of operations leave are the consistent ones. -/
theorem isReachable_iff_isConsistent {m : Model} : m.IsReachable ↔ m.IsConsistent :=
  ⟨IsReachable.isConsistent, IsConsistent.isReachable⟩

end Model

end TriggerPlan
