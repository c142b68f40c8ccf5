import TriggerPlan.Proofs.Model.Operation

/-!
# Layers along a run

Which levels a model has and what their layers hold, after one operation
(`Operation.Leads.layerAt?_eq`) and after a run (`Model.follows_attemptAll`): a level is there once
an operation has created it, and its layer has gone through the changes that the operations have
made to it, and through no others.
-/

namespace TriggerPlan

namespace Model

/-! ## Levels that are there -/

theorem isSome_layerAt?_repository (m : Model) (name : String) :
    (m.layerAt? (.repository name)).isSome = (m.repository? name).isSome :=
  Option.isSome_map

theorem isSome_layerAt?_trigger (m : Model) (name hostname : String) :
    (m.layerAt? (.trigger name hostname)).isSome = (m.trigger? name hostname).isSome :=
  Option.isSome_map

/-! ## Entities that are put into a model -/

variable {m : Model} {r : Repository}

/-- A repository with the triggers that the model has under its name adds or changes one level. -/
theorem layerAt?_putRepository
    (htriggers : ∀ hostname, r.trigger? hostname = m.trigger? r.name hostname) (level : Level) :
    (m.putRepository r).layerAt? level =
      if level = .repository r.name then some (r.path, r.settings) else m.layerAt? level := by
  cases level with
  | global => rfl
  | repository name =>
    rw [layerAt?, repository?_putRepository, layerAt?]
    by_cases h : name = r.name <;> simp [h]
  | trigger name hostname =>
    have hlookup : (m.putRepository r).trigger? name hostname = m.trigger? name hostname := by
      rw [trigger?_putRepository]
      split
      · rename_i h
        rw [h, htriggers]
      · rfl
    rw [layerAt?, hlookup, if_neg (by simp), layerAt?]

/-- A repository that takes the place of one with the same name and triggers changes at most one
level. -/
theorem layerAt?_replace (hr : m.repository? r.name = some r) (r' : Repository)
    (hname : r'.name = r.name) (htriggers : r'.triggers = r.triggers) (level : Level) :
    (m.putRepository r').layerAt? level =
      if level = .repository r.name then some (r.path, r'.settings) else m.layerAt? level := by
  have hsame (hostname : String) : r'.trigger? hostname = m.trigger? r'.name hostname := by
    rw [trigger?_eq_bind, hname, hr, Option.bind_some, Repository.trigger?, htriggers]
    rfl
  rw [layerAt?_putRepository hsame, Repository.path, Repository.path, hname]

/-- The levels stay as they are if the settings are the same too. -/
theorem layerAt?_replace_same (hr : m.repository? r.name = some r) (r' : Repository)
    (hname : r'.name = r.name) (htriggers : r'.triggers = r.triggers)
    (hsettings : r'.settings = r.settings) (level : Level) :
    (m.putRepository r').layerAt? level = m.layerAt? level := by
  rw [layerAt?_replace hr r' hname htriggers, hsettings]
  split
  · rename_i hlevel
    rw [hlevel, layerAt?, hr, Option.map_some]
  · rfl

/-- A trigger that is put into a repository of the model adds or changes one level. -/
theorem layerAt?_putTrigger (hr : m.repository? r.name = some r) (t : Trigger) (level : Level) :
    (m.putRepository (r.putTrigger t)).layerAt? level =
      if level = .trigger r.name t.hostname then some (t.path, t.settings)
      else m.layerAt? level := by
  have hname : (r.putTrigger t).name = r.name := rfl
  cases level with
  | global => rfl
  | repository name =>
    rw [if_neg (by simp), layerAt?, repository?_putRepository, hname, layerAt?]
    split
    · rename_i h
      rw [h, hr]
      rfl
    · rfl
  | trigger name hostname =>
    rw [layerAt?, trigger?_putRepository, hname, layerAt?]
    by_cases h : name = r.name
    · have hlookup : m.trigger? name hostname = r.trigger? hostname := by
        rw [trigger?_eq_bind, h, hr, Option.bind_some]
      rw [if_pos h, Repository.trigger?_putTrigger, hlookup]
      by_cases hhost : hostname = t.hostname <;> simp [h, hhost]
    · rw [if_neg h, if_neg (by simp [h])]

end Model

/-! ## One operation -/

/-- The layer after a change, if there is one. -/
def Layer.changed? (l : Layer) (change? : Option LayerChange) : Layer :=
  change?.elim l l.changed

/-- Levels whose layers are not changed stay as they are. -/
@[simp] theorem Layer.map_changed?_none (found : Option (String × Layer)) :
    (found.map fun l => (l.1, l.2.changed? none)) = found :=
  Option.map_id'

namespace Operation

/-- The level of the entity that an operation creates. -/
def creates? : Operation → Option Level
  | createRepository name => some (.repository name)
  | createTrigger name hostname => some (.trigger name hostname)
  | setContextUrl .. => none
  | setRepoKey .. => none
  | changeLayer .. => none

/-- The change that an operation makes to the layer of a level. -/
def changeAt? (level : Level) : Operation → Option LayerChange
  | createRepository _ => none
  | createTrigger .. => none
  | setContextUrl .. => none
  | setRepoKey .. => none
  | changeLayer level' change => if level' = level then some change else none

end Operation

/-- Levels of which one is created. -/
theorem Level.ite_created {β : Type} (target level : Level) (new : Level → β) (old : β) :
    (if level = target then new target else old) =
      if some target = some level then new level else old := by
  by_cases h : level = target
  · rw [if_pos h, if_pos (congrArg some h.symm), h]
  · rw [if_neg h, if_neg fun h' => h (Option.some.inj h').symm]

/-- Levels of which one is changed. -/
theorem Layer.map_changed?_ite {find? : Level → Option (String × Layer)} {target : Level}
    {path : String} {l : Layer} (hl : find? target = some (path, l)) (change : LayerChange)
    (level : Level) :
    (find? level).map
        (fun l => (l.1, l.2.changed? (if target = level then some change else none))) =
      if level = target then some (path, l.changed change) else find? level := by
  by_cases h : level = target
  · rw [h, if_pos rfl, if_pos rfl, hl]
    rfl
  · rw [if_neg (Ne.symm h), if_neg h, map_changed?_none]

/-- After an operation there are the levels that there were and the one that it has created. Their
layers are as they were, but for the one that it has changed. -/
theorem Operation.Leads.layerAt?_eq {m m' : Model} {op : Operation} (h : op.Leads m m')
    (hm : m.IsConsistent) (level : Level) :
    m'.layerAt? level =
      if op.creates? = some level then some (level.path, .empty)
      else (m.layerAt? level).map fun l => (l.1, l.2.changed? (op.changeAt? level)) := by
  have hnone (found found' : Option (String × Layer)) :
      (if none = some level then found else found') = found' := if_neg (by simp)
  cases h with
  | @createRepository name named free =>
    have htriggers (hostname : String) :
        (Repository.new name).trigger? hostname = m.trigger? name hostname := by
      rw [Model.trigger?_eq_bind, free]
      rfl
    rw [Model.layerAt?_putRepository htriggers, creates?, changeAt?, Layer.map_changed?_none]
    exact Level.ite_created (.repository name) level (fun l => some (l.path, Layer.empty)) _
  | @createTrigger name hostname r owner named free =>
    obtain rfl := hm.stored name r owner
    rw [Model.layerAt?_putTrigger owner, creates?, changeAt?, Layer.map_changed?_none]
    exact Level.ite_created (.trigger r.name hostname) level (fun l => some (l.path, Layer.empty)) _
  | @setContextUrl name value r owner =>
    obtain rfl := hm.stored name r owner
    rw [creates?, hnone, changeAt?, Layer.map_changed?_none]
    exact Model.layerAt?_replace_same owner { r with contextUrl := value } rfl rfl rfl level
  | @setRepoKey name value r owner =>
    obtain rfl := hm.stored name r owner
    rw [creates?, hnone, changeAt?, Layer.map_changed?_none]
    exact Model.layerAt?_replace_same owner { r with repoKey := value } rfl rfl rfl level
  | @changeGlobal change acceptable =>
    rw [creates?, hnone, changeAt?, Layer.map_changed?_ite rfl]
    cases level <;> rfl
  | @changeRepository name change r owner acceptable =>
    obtain rfl := hm.stored name r owner
    have hl : m.layerAt? (.repository r.name) = some (r.path, r.settings) := by
      rw [Model.layerAt?, owner, Option.map_some]
    rw [creates?, hnone, changeAt?, Layer.map_changed?_ite hl]
    exact Model.layerAt?_replace owner { r with settings := r.settings.changed change } rfl rfl level
  | @changeTrigger name hostname change r t owner trigger acceptable =>
    obtain rfl := hm.stored name r owner
    obtain rfl := ((hm.repositories r.name r owner).triggers hostname t trigger).hostname
    have hl : m.layerAt? (.trigger r.name t.hostname) = some (t.path, t.settings) := by
      rw [Model.layerAt?, Model.trigger?_eq_bind, owner, Option.bind_some, trigger,
        Option.map_some]
    rw [creates?, hnone, changeAt?, Layer.map_changed?_ite hl]
    exact Model.layerAt?_putTrigger owner _ level

/-- What an operation creates was not there before. -/
theorem Operation.Leads.layerAt?_eq_none {m m' : Model} {op : Operation} {level : Level}
    (h : op.Leads m m') (hcreates : op.creates? = some level) : m.layerAt? level = none := by
  cases h with
  | @createRepository name named free =>
    obtain rfl := Option.some.inj hcreates
    rw [Model.layerAt?, free, Option.map_none]
  | @createTrigger name hostname r owner named free =>
    obtain rfl := Option.some.inj hcreates
    rw [Model.layerAt?, Model.trigger?_eq_bind, owner, Option.bind_some, free, Option.map_none]
  | setContextUrl owner => cases hcreates
  | setRepoKey owner => cases hcreates
  | changeGlobal acceptable => cases hcreates
  | changeRepository owner acceptable => cases hcreates
  | changeTrigger owner trigger acceptable => cases hcreates

/-- What an operation changes was there before, and the change can be made. -/
theorem Operation.Leads.layerAt?_ne_none {m m' : Model} {op : Operation} {level : Level}
    {change : LayerChange} (h : op.Leads m m') (hchange : op.changeAt? level = some change) :
    m.layerAt? level ≠ none ∧ change.IsAcceptable := by
  have htarget {target : Level} {change' : LayerChange}
      (h : (if target = level then some change' else none) = some change) :
      target = level ∧ change' = change := by
    split at h
    · exact ⟨‹_›, Option.some.inj h⟩
    · cases h
  cases h with
  | createRepository named free => cases hchange
  | createTrigger owner named free => cases hchange
  | setContextUrl owner => cases hchange
  | setRepoKey owner => cases hchange
  | changeGlobal acceptable =>
    obtain ⟨rfl, rfl⟩ := htarget hchange
    exact ⟨Option.some_ne_none _, acceptable⟩
  | changeRepository owner acceptable =>
    obtain ⟨rfl, rfl⟩ := htarget hchange
    rw [Model.layerAt?, owner, Option.map_some]
    exact ⟨Option.some_ne_none _, acceptable⟩
  | changeTrigger owner trigger acceptable =>
    obtain ⟨rfl, rfl⟩ := htarget hchange
    rw [Model.layerAt?, Model.trigger?_eq_bind, owner, Option.bind_some, trigger, Option.map_some]
    exact ⟨Option.some_ne_none _, acceptable⟩

/-- A level is still there after an operation. -/
theorem Model.IsConsistent.layerAt?_attempt_isSome {m : Model} (hm : m.IsConsistent) {level : Level}
    (h : (m.layerAt? level).isSome = true) (op : Operation) :
    ((m.attempt op).layerAt? level).isSome = true := by
  rcases hm.perform_ends op with ⟨m', hok, hleads⟩ | ⟨e, herror, -⟩
  · rw [attempt_of_ok hok, hleads.layerAt?_eq hm]
    split
    · rfl
    · rw [Option.isSome_map]
      exact h
  · rw [attempt_of_error herror]
    exact h

namespace Model.IsConsistent

variable {m : Model} (hm : m.IsConsistent)
include hm

/-- A repository is still there after an operation. -/
theorem isSome_repository?_attempt {name : String} (h : (m.repository? name).isSome = true)
    (op : Operation) : ((m.attempt op).repository? name).isSome = true := by
  rw [← isSome_layerAt?_repository] at h ⊢
  exact hm.layerAt?_attempt_isSome h op

/-- A trigger is still there after an operation. -/
theorem isSome_trigger?_attempt {name hostname : String}
    (h : (m.trigger? name hostname).isSome = true) (op : Operation) :
    ((m.attempt op).trigger? name hostname).isSome = true := by
  rw [← isSome_layerAt?_trigger] at h ⊢
  exact hm.layerAt?_attempt_isSome h op

end Model.IsConsistent

/-! ## Runs -/

namespace Level

/-- What the layer of a level holds before it is changed. -/
def initial : Level → Layer
  | .global => .globalDefaults
  | .repository _ => .empty
  | .trigger _ _ => .empty

/-- The operations have created the level, or it has always been there. -/
def IsMadeBy (level : Level) (done : List Operation) : Prop :=
  level = .global ∨ ∃ op ∈ done, op.creates? = some level

/-- The layer of a level after the changes that the operations make to it, in order. -/
def layerAfter (level : Level) (done : List Operation) : Layer :=
  (done.filterMap (·.changeAt? level)).foldl Layer.changed level.initial

theorem layerAfter_append (level : Level) (done : List Operation) (op : Operation) :
    level.layerAfter (done ++ [op]) = (level.layerAfter done).changed? (op.changeAt? level) := by
  rw [layerAfter, layerAfter, List.filterMap_append, List.foldl_append]
  cases h : op.changeAt? level <;> simp [h, Layer.changed?]

theorem isMadeBy_append {level : Level} {done : List Operation} {op : Operation} :
    level.IsMadeBy (done ++ [op]) ↔ level.IsMadeBy done ∨ op.creates? = some level := by
  simp [IsMadeBy, or_and_right, exists_or, or_assoc]

theorem isMadeBy_repository {name : String} {done : List Operation} :
    (repository name).IsMadeBy done ↔ .createRepository name ∈ done := by
  constructor
  · rintro (hglobal | ⟨op, hop, hcreates⟩)
    · cases hglobal
    · cases op with
      | createRepository name' =>
        obtain rfl := Level.repository.inj (Option.some.inj hcreates)
        exact hop
      | _ => cases hcreates
  · exact fun hop => .inr ⟨_, hop, rfl⟩

theorem isMadeBy_trigger {name hostname : String} {done : List Operation} :
    (trigger name hostname).IsMadeBy done ↔ .createTrigger name hostname ∈ done := by
  constructor
  · rintro (hglobal | ⟨op, hop, hcreates⟩)
    · cases hglobal
    · cases op with
      | createTrigger name' hostname' =>
        obtain ⟨rfl, rfl⟩ := Level.trigger.inj (Option.some.inj hcreates)
        exact hop
      | _ => cases hcreates
  · exact fun hop => .inr ⟨_, hop, rfl⟩

end Level

/-- What a model has for a level, if the operations of `done` have led to the model. -/
inductive Model.Follows (m : Model) (done : List Operation) (level : Level) : Prop where
  | missing (missing : m.layerAt? level = none) (never : ¬level.IsMadeBy done)
      (untouched : ∀ op ∈ done, op.changeAt? level = none)
  | found (found : m.layerAt? level = some (level.path, level.layerAfter done))
      (made : level.IsMadeBy done)

/-- One more operation on a model that follows the operations before it. -/
theorem Model.Follows.step {m m' : Model} {done : List Operation} {op : Operation} {level : Level}
    (h : m.Follows done level) (hm : m.IsConsistent) (hleads : op.Leads m m') :
    m'.Follows (done ++ [op]) level := by
  have hstep := hleads.layerAt?_eq hm level
  cases h with
  | missing missing never untouched =>
    have hchange : op.changeAt? level = none := by
      by_contra hne
      obtain ⟨change, hchange⟩ := Option.ne_none_iff_exists'.1 hne
      exact (hleads.layerAt?_ne_none hchange).1 missing
    have huntouched : ∀ op' ∈ done ++ [op], op'.changeAt? level = none := by
      intro op' hop'
      rcases List.mem_append.1 hop' with hdone | hlast
      · exact untouched op' hdone
      · rw [List.mem_singleton.1 hlast]
        exact hchange
    by_cases hcreates : op.creates? = some level
    · have hinitial : level.initial = .empty := by
        cases level with
        | global => cases missing
        | repository name => rfl
        | trigger name hostname => rfl
      have hlayer : level.layerAfter (done ++ [op]) = .empty := by
        rw [Level.layerAfter, List.filterMap_eq_nil_iff.2 huntouched]
        exact hinitial
      rw [if_pos hcreates, ← hlayer] at hstep
      exact .found hstep (Level.isMadeBy_append.2 (.inr hcreates))
    · rw [if_neg hcreates, missing, Option.map_none] at hstep
      refine .missing hstep ?_ huntouched
      rw [Level.isMadeBy_append, not_or]
      exact ⟨never, hcreates⟩
  | found found made =>
    have hcreates : op.creates? ≠ some level := by
      intro hcreates
      have hnone := hleads.layerAt?_eq_none hcreates
      rw [found] at hnone
      cases hnone
    rw [if_neg hcreates, found, Option.map_some, ← Level.layerAfter_append] at hstep
    exact .found hstep (Level.isMadeBy_append.2 (.inl made))

namespace Model

/-- A run has made the levels whose creation has succeeded, and their layers have gone through the
changes that have succeeded. -/
theorem follows_attemptAll (ops : List Operation) (level : Level) :
    (Model.new.attemptAll ops).Follows (Model.new.succeeding ops) level := by
  refine isConsistent_new.attemptAll_induction
    (P := fun done m => m.Follows done level) ?_ ?_ ops
  · -- a new model has only the global level
    have hnever (level : Level) (h : level ≠ .global) : ¬level.IsMadeBy [] := by
      rintro (hglobal | ⟨op, hop, -⟩)
      · exact h hglobal
      · exact absurd hop List.not_mem_nil
    cases level with
    | global => exact .found rfl (.inl rfl)
    | repository name => exact .missing rfl (hnever _ (by simp)) (by simp)
    | trigger name hostname => exact .missing rfl (hnever _ (by simp)) (by simp)
  · intro done m op m' hm hfollows hleads
    exact hfollows.step hm hleads

/-- A level is there if and only if its creation has succeeded. -/
theorem layerAt?_attemptAll_isSome_iff (ops : List Operation) (level : Level) :
    ((Model.new.attemptAll ops).layerAt? level).isSome = true ↔
      level.IsMadeBy (Model.new.succeeding ops) := by
  cases follows_attemptAll ops level with
  | missing missing never untouched => simp [missing, never]
  | found found made => simp [found, made]

/-- The changes that have succeeded in a run can be made to a layer. -/
theorem isAcceptable_of_mem_succeeding (ops : List Operation) {op : Operation} {level : Level}
    {change : LayerChange} (hop : op ∈ Model.new.succeeding ops)
    (hchange : op.changeAt? level = some change) : change.IsAcceptable := by
  refine isConsistent_new.attemptAll_induction
    (P := fun done _ => ∀ op ∈ done, op.changeAt? level = some change → change.IsAcceptable)
    ?_ ?_ ops op hop hchange
  · exact fun op hop => absurd hop List.not_mem_nil
  · intro done m op m' _ hdone hleads op' hop' hchange'
    rcases List.mem_append.1 hop' with hold | hlast
    · exact hdone op' hold hchange'
    · rw [List.mem_singleton.1 hlast] at hchange'
      exact (hleads.layerAt?_ne_none hchange').2

end Model

end TriggerPlan
