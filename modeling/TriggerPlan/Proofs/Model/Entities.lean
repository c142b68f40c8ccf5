import TriggerPlan.Model.View
import TriggerPlan.Proofs.SortedMap
import TriggerPlan.Proofs.Text.Blank

/-!
# Consistent models

The name of an entity is kept in three places: in the entity, in the key under which its parent
stores it, and for triggers in the derived name and path. A model is consistent if all of them agree
and no name is blank (`Model.IsConsistent`). Entities can be put into a consistent model, and putting
back what was found changes nothing.
-/

namespace TriggerPlan

/-! ## Look-up -/

theorem Repository.trigger?_putTrigger (r : Repository) (t : Trigger) (hostname : String) :
    (r.putTrigger t).trigger? hostname =
      if hostname = t.hostname then some t else r.trigger? hostname :=
  SortedMap.get?_insert ..

/-- A trigger is found where it has been put. -/
theorem Repository.trigger?_putTrigger_self (r : Repository) (t : Trigger) :
    (r.putTrigger t).trigger? t.hostname = some t := by
  rw [trigger?_putTrigger, if_pos rfl]

theorem Model.repository?_putRepository (m : Model) (r : Repository) (name : String) :
    (m.putRepository r).repository? name = if name = r.name then some r else m.repository? name :=
  SortedMap.get?_insert ..

theorem Model.trigger?_eq_bind (m : Model) (name hostname : String) :
    m.trigger? name hostname = (m.repository? name).bind (·.trigger? hostname) := rfl

theorem Model.trigger?_putRepository (m : Model) (r : Repository) (name hostname : String) :
    (m.putRepository r).trigger? name hostname =
      if name = r.name then r.trigger? hostname else m.trigger? name hostname := by
  rw [trigger?_eq_bind, repository?_putRepository]
  split <;> rfl

/-- A view holds what the model has under the two names. -/
theorem Model.view?_eq_some_iff {m : Model} {name hostname : String} {v : View} :
    m.view? name hostname = some v ↔
      m.repository? name = some v.repository ∧
        v.repository.trigger? hostname = some v.trigger ∧ m.settings = v.global := by
  simp only [view?, Option.bind_eq_bind, Option.bind_eq_some_iff]
  constructor
  · rintro ⟨r, hr, t, ht, hv⟩
    obtain rfl := Option.some.inj hv
    exact ⟨hr, ht, rfl⟩
  · rintro ⟨hr, ht, hglobal⟩
    exact ⟨v.repository, hr, v.trigger, ht, by rw [hglobal]; rfl⟩

theorem Model.trigger?_of_view? {m : Model} {name hostname : String} {v : View}
    (hv : m.view? name hostname = some v) : m.trigger? name hostname = some v.trigger := by
  obtain ⟨hr, ht, -⟩ := view?_eq_some_iff.1 hv
  rw [trigger?_eq_bind, hr, Option.bind_some, ht]

/-- There is a view of every trigger. -/
theorem Model.exists_view?_iff {m : Model} {name hostname : String} :
    (∃ v, m.view? name hostname = some v) ↔ (m.trigger? name hostname).isSome = true := by
  rw [← Option.isSome_iff_exists, view?, trigger?_eq_bind]
  cases m.repository? name with
  | none => rfl
  | some r => cases h : r.trigger? hostname <;> simp [h]

/-! ## Consistency -/

/-- The trigger is the one that a repository has for a host. It is named by the repository and the
host, whose first character is put in upper case. -/
structure Trigger.IsOf (t : Trigger) (repository host : String) : Prop where
  named : ¬Text.IsBlank host
  hostname : t.hostname = host
  name : ∃ c cs, host.toList = c :: cs ∧
    t.name.text = repository ++ (Text.upperChar c ++ String.ofList cs)
  path : t.path = "triggers/" ++ repository ++ "/" ++ host

/-- Each trigger is the one of its key. -/
structure Repository.IsConsistent (r : Repository) : Prop where
  named : ¬Text.IsBlank r.name
  triggers : ∀ hostname t, r.trigger? hostname = some t → t.IsOf r.name hostname

/-- Each repository is stored under its name, and its triggers under their hostnames. -/
structure Model.IsConsistent (m : Model) : Prop where
  stored : ∀ name r, m.repository? name = some r → r.name = name
  repositories : ∀ name r, m.repository? name = some r → r.IsConsistent

/-- The name of a trigger is the one that is made from its repository and its host. -/
theorem Trigger.IsOf.name_eq {t : Trigger} {repository host : String} (h : t.IsOf repository host) :
    t.name = .of repository host := by
  obtain ⟨c, cs, hhost, hname⟩ := h.name
  have hcapital : Text.capitalize host = Text.upperChar c ++ String.ofList cs := by
    simp only [Text.capitalize, hhost]
  rw [← hcapital] at hname
  exact congrArg TriggerName.mk hname

/-- A trigger with that name and with that path is the one for the host. -/
theorem Trigger.isOf_of_eq {t : Trigger} {repository host : String} (hnamed : ¬Text.IsBlank host)
    (hhost : t.hostname = host) (hname : t.name = .of repository host)
    (hpath : t.path = triggerPath repository host) : t.IsOf repository host := by
  refine ⟨hnamed, hhost, ?_, hpath⟩
  cases hchars : host.toList with
  | nil =>
    -- the empty text is blank
    refine absurd (fun c hc => ?_) hnamed
    rw [hchars] at hc
    exact nomatch hc
  | cons c cs =>
    refine ⟨c, cs, rfl, ?_⟩
    rw [hname]
    simp only [TriggerName.of, Text.capitalize, hchars]

theorem Trigger.isOf_new {repository hostname : String} (h : ¬Text.IsBlank hostname) :
    (Trigger.new repository hostname).IsOf repository hostname :=
  isOf_of_eq h rfl rfl rfl

theorem Repository.isConsistent_new {name : String} (h : ¬Text.IsBlank name) :
    (Repository.new name).IsConsistent :=
  ⟨h, fun _ _ ht => nomatch ht⟩

theorem Model.isConsistent_new : Model.new.IsConsistent :=
  ⟨fun _ _ hr => (nomatch hr), fun _ _ hr => nomatch hr⟩

/-- Of the trigger that a repository has for a host only the settings are open. -/
theorem Trigger.IsOf.eq_new {t : Trigger} {repository host : String} (h : t.IsOf repository host) :
    t = { Trigger.new repository host with settings := t.settings } := by
  have hname := h.name_eq
  obtain ⟨-, hhost, -, hpath⟩ := h
  cases t
  simp_all [Trigger.new, triggerPath_eq]

namespace Repository

variable {r : Repository} {t : Trigger} {hostname : String}

/-- A trigger can be put into a consistent repository. -/
theorem IsConsistent.putTrigger (hr : r.IsConsistent) (ht : t.IsOf r.name hostname) :
    (r.putTrigger t).IsConsistent := by
  refine ⟨hr.named, fun hostname' t' ht' => ?_⟩
  rw [trigger?_putTrigger] at ht'
  split at ht'
  · rename_i hhost
    obtain rfl := Option.some.inj ht'
    rw [hhost, ht.hostname]
    exact ht
  · exact hr.triggers hostname' t' ht'

/-- Putting a trigger back changes nothing. -/
theorem IsConsistent.putTrigger_eq_self (hr : r.IsConsistent) (ht : r.trigger? hostname = some t) :
    r.putTrigger t = r := by
  have hget : r.triggers.get? t.hostname = some t := by
    rw [(hr.triggers hostname t ht).hostname]
    exact ht
  rw [Repository.putTrigger, SortedMap.insert_eq_self hget]

end Repository

namespace Model.IsConsistent

variable {m : Model} {r : Repository} {t : Trigger} {name hostname : String}

/-- A consistent repository can be put into a consistent model. -/
theorem putRepository (hm : m.IsConsistent) (hr : r.IsConsistent) :
    (m.putRepository r).IsConsistent := by
  have hboth : ∀ name' r', (m.putRepository r).repository? name' = some r' →
      r'.name = name' ∧ r'.IsConsistent := by
    intro name' r' hr'
    rw [repository?_putRepository] at hr'
    split at hr'
    · rename_i hname
      obtain rfl := Option.some.inj hr'
      exact ⟨hname.symm, hr⟩
    · exact ⟨hm.stored name' r' hr', hm.repositories name' r' hr'⟩
  exact ⟨fun name' r' hr' => (hboth name' r' hr').1, fun name' r' hr' => (hboth name' r' hr').2⟩

/-- Putting a repository back changes nothing. -/
theorem putRepository_eq_self (hm : m.IsConsistent) (hr : m.repository? name = some r) :
    m.putRepository r = m := by
  have hget : m.repositories.get? r.name = some r := by
    rw [hm.stored name r hr]
    exact hr
  rw [Model.putRepository, SortedMap.insert_eq_self hget]

/-- A trigger that the model finds is the one of the two names. -/
theorem trigger (hm : m.IsConsistent) (ht : m.trigger? name hostname = some t) :
    t.IsOf name hostname := by
  rw [trigger?_eq_bind] at ht
  obtain ⟨r, hr, ht⟩ := Option.bind_eq_some_iff.1 ht
  have hof : t.IsOf r.name hostname := (hm.repositories name r hr).triggers hostname t ht
  rw [hm.stored name r hr] at hof
  exact hof

end Model.IsConsistent

end TriggerPlan
