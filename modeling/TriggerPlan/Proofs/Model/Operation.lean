import TriggerPlan.Proofs.Model.Creation
import TriggerPlan.Proofs.Model.Entities
import TriggerPlan.Proofs.Settings.Change

/-!
# Operations and their runs

What an operation does to a consistent model: either it leads to another model, of which
`Operation.Leads` says everything, or it is refused for a reason that `Operation.Refused` gives, and
the model is as it was (`Operation.perform_ends`). So consistency is kept along every run
(`Model.IsConsistent.attemptAll`).
-/

namespace TriggerPlan

/-! ## Edits -/

namespace Edit

variable {σ τ : Type}

/-- An edit of `s` ends in one of two ways: it succeeds with a state of which `S` holds, or it fails
for a reason of which `E` holds and has left `s` as it was. -/
def Ends (edit : Edit σ Unit) (s : σ) (S : σ → Prop) (E : Refusal → Prop) : Prop :=
  (∃ t, edit s = .ok () t ∧ S t) ∨ ∃ e, edit s = .error e s ∧ E e

namespace Ends

variable {s : σ} {S : σ → Prop} {E : Refusal → Prop}

theorem modify {f : σ → σ} (h : S (f s)) : Ends (modify f) s S E :=
  .inl ⟨f s, rfl, h⟩

/-- A computation whose success and errors are known. -/
theorem update {f : σ → Except Error σ} {P : Prop} {t : σ} {R : Error → Prop}
    (hf : Yields (f s) P t) (hr : Reports (f s) R) (hS : P → S t) (hE : ∀ e, R e → E (.failed e)) :
    Ends (.update f) s S E := by
  cases hfs : f s with
  | ok t' =>
    obtain ⟨hP, rfl⟩ := (hf t').1 hfs
    exact .inl ⟨t', update_eq_ok hfs, hS hP⟩
  | error e => exact .inr ⟨.failed e, update_eq_error hfs, hE e (hr e hfs)⟩

variable {part? : σ → Option τ} {put : σ → τ → σ} {edit : Edit τ Unit}

/-- An edit of a part that the state does not have is refused. -/
theorem inPart_none (hs : part? s = none) (hE : E .noSuchEntity) :
    Ends (.inPart part? put edit) s S E :=
  .inr ⟨.noSuchEntity, inPart_eq_noSuchEntity hs, hE⟩

/-- An edit of a part ends as it does by itself, if the state does not change when the part is put
back as it was. -/
theorem inPart {t : τ} (ht : part? s = some t) (hback : put s t = s)
    (h : Ends edit t (fun t' => S (put s t')) E) : Ends (.inPart part? put edit) s S E := by
  rcases h with ⟨t', ht', hS⟩ | ⟨e, he, hE⟩
  · exact .inl ⟨put s t', inPart_eq_ok ht ht', hS⟩
  · have hpart : Edit.inPart part? put edit s = .error e (put s t) := inPart_eq_error ht he
    rw [hback] at hpart
    exact .inr ⟨e, hpart, hE⟩

end Ends

end Edit

/-! ## Operations -/

/-- The path by which errors name the entity of a level. -/
def Level.path : Level → String
  | global => "triggers"
  | repository name => "triggers/" ++ name
  | trigger name hostname => "triggers/" ++ name ++ "/" ++ hostname

namespace Operation

/-- The level that an operation needs: that of the entity which it changes or adds to. -/
def level : Operation → Level
  | createRepository _ => .global
  | createTrigger repository _ => .repository repository
  | setContextUrl repository _ => .repository repository
  | setRepoKey repository _ => .repository repository
  | changeLayer level _ => level

/-- The model after an operation that can be carried out. -/
inductive Leads (m : Model) : Operation → Model → Prop where
  | createRepository {name : String} (named : ¬Text.IsBlank name)
      (free : m.repository? name = none) :
      Leads m (.createRepository name) (m.putRepository (.new name))
  | createTrigger {name hostname : String} {r : Repository} (owner : m.repository? name = some r)
      (named : ¬Text.IsBlank hostname) (free : r.trigger? hostname = none) :
      Leads m (.createTrigger name hostname) (m.putRepository (r.putTrigger (.new name hostname)))
  | setContextUrl {name : String} {value : Option String} {r : Repository}
      (owner : m.repository? name = some r) :
      Leads m (.setContextUrl name value) (m.putRepository { r with contextUrl := value })
  | setRepoKey {name : String} {value : Option String} {r : Repository}
      (owner : m.repository? name = some r) :
      Leads m (.setRepoKey name value) (m.putRepository { r with repoKey := value })
  | changeGlobal {change : LayerChange} (acceptable : change.IsAcceptable) :
      Leads m (.changeLayer .global change) { m with settings := m.settings.changed change }
  | changeRepository {name : String} {change : LayerChange} {r : Repository}
      (owner : m.repository? name = some r) (acceptable : change.IsAcceptable) :
      Leads m (.changeLayer (.repository name) change)
        (m.putRepository { r with settings := r.settings.changed change })
  | changeTrigger {name hostname : String} {change : LayerChange} {r : Repository} {t : Trigger}
      (owner : m.repository? name = some r) (trigger : r.trigger? hostname = some t)
      (acceptable : change.IsAcceptable) :
      Leads m (.changeLayer (.trigger name hostname) change)
        (m.putRepository (r.putTrigger { t with settings := t.settings.changed change }))

/-- Why an operation cannot be carried out. -/
inductive Refused (m : Model) : Operation → Refusal → Prop where
  | missing {op : Operation} (missing : m.layerAt? op.level = none) : Refused m op .noSuchEntity
  | blankRepository {name : String} {e : Error} (blank : Text.IsBlank name)
      (about : e.IsAbout "triggers" "name") : Refused m (.createRepository name) (.failed e)
  | takenRepository {name : String} {r : Repository} (taken : m.repository? name = some r) :
      Refused m (.createRepository name) (.failed (.duplicateEntity "triggers" .repository name))
  | blankHost {name hostname : String} {e : Error} (blank : Text.IsBlank hostname)
      (about : e.IsAbout ("triggers/" ++ name) "name") :
      Refused m (.createTrigger name hostname) (.failed e)
  | takenHost {name hostname : String} {t : Trigger} (taken : m.trigger? name hostname = some t) :
      Refused m (.createTrigger name hostname) (.failed (.duplicateEntity name .host hostname))
  | unacceptable {level : Level} {change : LayerChange} {path : String} {l : Layer}
      {key : SettingKey} {e : Error} (found : m.layerAt? level = some (path, l))
      (unacceptable : ¬change.IsAcceptable) (field : change.key? = some key)
      (about : e.IsAbout path key.name) :
      Refused m (.changeLayer level change) (.failed e)

end Operation

/-! ## What an operation does -/

/-- A change of a layer in an entity ends as the change of the layer does. -/
theorem Edit.Ends.changeLayer {σ : Type} {s : σ} {layer : σ → Layer} {path : σ → String}
    {put : σ → Layer → σ} {change : LayerChange} {S : σ → Prop} {E : Refusal → Prop}
    (hS : change.IsAcceptable → S (put s ((layer s).changed change)))
    (hE : ∀ e key, ¬change.IsAcceptable → change.key? = some key → e.IsAbout (path s) key.name →
      E (.failed e)) :
    Ends (.update fun s => put s <$> (layer s).change (path s) change) s S E := by
  have hyields := (layer s).change_yields (path s) change
  have hreports := ((layer s).change_reports (path s) change).and_not hyields
  refine update (hyields.map (put s)) (hreports.map (put s)) hS ?_
  rintro e ⟨⟨key, hkey, habout⟩, hnot⟩
  exact hE e key hnot hkey habout

/-- A repository is created, unless its name is blank or taken. -/
theorem Model.ends_createRepository (m : Model) (name : String) :
    Edit.Ends (Operation.createRepository name).perform m (Operation.Leads m (.createRepository name))
      (Operation.Refused m (.createRepository name)) := by
  refine .update (m.createRepository_yields name) (m.createRepository_reports name) ?_ ?_
  · rintro ⟨hnamed, hfree⟩
    exact .createRepository hnamed (Option.not_isSome_iff_eq_none.1 hfree)
  · rintro e (⟨habout, hblank⟩ | ⟨htaken, rfl⟩)
    · exact .blankRepository hblank habout
    · obtain ⟨r, hr⟩ := Option.isSome_iff_exists.1 htaken
      exact .takenRepository hr

namespace Model.IsConsistent

variable {m : Model} (hm : m.IsConsistent) {op : Operation} {name : String}
include hm

/-- An edit of a repository ends as it does by itself, or the repository is missing. -/
theorem ends_inRepository {edit : Edit Repository Unit}
    (hlevel : m.repository? name = none → m.layerAt? op.level = none)
    (h : ∀ r, m.repository? name = some r →
      Edit.Ends edit r (fun r' => op.Leads m (m.putRepository r')) (op.Refused m)) :
    Edit.Ends (inRepository name edit) m (op.Leads m) (op.Refused m) := by
  cases hr : m.repository? name with
  | none => exact .inPart_none hr (.missing (hlevel hr))
  | some r => exact .inPart hr (hm.putRepository_eq_self hr) (h r hr)

/-- A trigger is created in a repository, unless its name is blank or taken there. -/
theorem ends_createTrigger {r : Repository} (hr : m.repository? name = some r)
    (hostname : String) :
    Edit.Ends (.update (·.createTrigger hostname)) r
      (fun r' => Operation.Leads m (.createTrigger name hostname) (m.putRepository r'))
      (Operation.Refused m (.createTrigger name hostname)) := by
  have hname : r.name = name := hm.stored name r hr
  have hpath : r.path = "triggers/" ++ name := by
    rw [Repository.path, hname, repositoryPath_eq]
  refine .update (r.createTrigger_yields hostname) (r.createTrigger_reports hostname) ?_ ?_
  · rintro ⟨hnamed, hfree⟩
    rw [hname]
    exact .createTrigger hr hnamed (Option.not_isSome_iff_eq_none.1 hfree)
  · rintro e (⟨habout, hblank⟩ | ⟨htaken, rfl⟩)
    · rw [hpath] at habout
      exact .blankHost hblank habout
    · obtain ⟨t, ht⟩ := Option.isSome_iff_exists.1 htaken
      have htrigger : m.trigger? name hostname = some t := by
        rw [trigger?_eq_bind, hr]
        exact ht
      rw [hname]
      exact .takenHost htrigger

/-- The layer of a level is changed, unless the change cannot be made to a layer. -/
theorem ends_changeLayer (level : Level) (change : LayerChange) :
    Edit.Ends (editLayer change level) m (Operation.Leads m (.changeLayer level change))
      (Operation.Refused m (.changeLayer level change)) := by
  cases level with
  | global =>
    exact .changeLayer .changeGlobal fun e key hnot hkey habout =>
      .unacceptable rfl hnot hkey habout
  | repository name =>
    refine hm.ends_inRepository (fun hnone => ?_) fun r hr => ?_
    · show (m.repository? name).map _ = none
      rw [hnone, Option.map_none]
    · have hlayer : m.layerAt? (.repository name) = some (r.path, r.settings) := by
        rw [layerAt?, hr, Option.map_some]
      exact .changeLayer (.changeRepository hr) fun e key hnot hkey habout =>
        .unacceptable hlayer hnot hkey habout
  | trigger name hostname =>
    refine hm.ends_inRepository (fun hnone => ?_) fun r hr => ?_
    · show (m.trigger? name hostname).map _ = none
      rw [trigger?_eq_bind, hnone, Option.bind_none, Option.map_none]
    have hlookup : m.trigger? name hostname = r.trigger? hostname := by
      rw [trigger?_eq_bind, hr, Option.bind_some]
    cases ht : r.trigger? hostname with
    | none =>
      refine .inPart_none ht (.missing ?_)
      show (m.trigger? name hostname).map _ = none
      rw [hlookup, ht, Option.map_none]
    | some t =>
      have hlayer : m.layerAt? (.trigger name hostname) = some (t.path, t.settings) := by
        rw [layerAt?, hlookup, ht, Option.map_some]
      refine .inPart ht ((hm.repositories name r hr).putTrigger_eq_self ht) ?_
      exact .changeLayer (.changeTrigger hr ht) fun e key hnot hkey habout =>
        .unacceptable hlayer hnot hkey habout

/-- On a consistent model an operation leads to another model, or it is refused and leaves the model
as it was. -/
theorem perform_ends (op : Operation) : Edit.Ends op.perform m (op.Leads m) (op.Refused m) := by
  have hmissing (name : String) (h : m.repository? name = none) :
      m.layerAt? (.repository name) = none := by
    rw [layerAt?, h, Option.map_none]
  cases op with
  | createRepository name => exact m.ends_createRepository name
  | createTrigger name hostname =>
    exact hm.ends_inRepository (hmissing name) fun r hr => hm.ends_createTrigger hr hostname
  | setContextUrl name value =>
    exact hm.ends_inRepository (hmissing name) fun r hr => .modify (.setContextUrl hr)
  | setRepoKey name value =>
    exact hm.ends_inRepository (hmissing name) fun r hr => .modify (.setRepoKey hr)
  | changeLayer level change => exact hm.ends_changeLayer level change

end Model.IsConsistent

/-! ## Runs -/

/-- A model to which an operation leads is consistent if the one before was. -/
theorem Operation.Leads.isConsistent {m m' : Model} {op : Operation} (h : op.Leads m m')
    (hm : m.IsConsistent) : m'.IsConsistent := by
  cases h with
  | createRepository named free => exact hm.putRepository (Repository.isConsistent_new named)
  | createTrigger owner named free =>
    have hr := hm.repositories _ _ owner
    rw [← hm.stored _ _ owner]
    exact hm.putRepository (hr.putTrigger (Trigger.isOf_new named))
  | setContextUrl owner =>
    have hr := hm.repositories _ _ owner
    exact hm.putRepository ⟨hr.named, hr.triggers⟩
  | setRepoKey owner =>
    have hr := hm.repositories _ _ owner
    exact hm.putRepository ⟨hr.named, hr.triggers⟩
  | changeGlobal acceptable => exact ⟨hm.stored, hm.repositories⟩
  | changeRepository owner acceptable =>
    have hr := hm.repositories _ _ owner
    exact hm.putRepository ⟨hr.named, hr.triggers⟩
  | changeTrigger owner trigger acceptable =>
    have hr := hm.repositories _ _ owner
    obtain ⟨hnamed, hhost, hname, hpath⟩ := hr.triggers _ _ trigger
    exact hm.putRepository (hr.putTrigger ⟨hnamed, hhost, hname, hpath⟩)

namespace Model

variable {m m' : Model} {op : Operation} {e : Refusal}

theorem apply_eq_ok_iff : m.apply op = .ok m' ↔ op.perform m = .ok () m' := by
  rw [apply]
  cases op.perform m <;> simp

theorem apply_of_error (h : op.perform m = .error e m') : m.apply op = .error e := by
  rw [apply, h]

theorem attempt_of_ok (h : op.perform m = .ok () m') : m.attempt op = m' := by
  rw [attempt, h]

theorem attempt_of_error (h : op.perform m = .error e m') : m.attempt op = m' := by
  rw [attempt, h]

/-- The operations of a sequence that succeed, when all of it is carried out. -/
def succeeding (m : Model) : List Operation → List Operation
  | [] => []
  | op :: ops =>
    match op.perform m with
    | .ok _ m' => op :: m'.succeeding ops
    | .error _ m' => m'.succeeding ops

theorem attemptAll_append (m : Model) (ops : List Operation) (op : Operation) :
    m.attemptAll (ops ++ [op]) = (m.attemptAll ops).attempt op :=
  List.foldl_concat ..

/-- The operations that succeed among some operations and others after them. -/
theorem succeeding_append (m : Model) (ops ops' : List Operation) :
    m.succeeding (ops ++ ops') = m.succeeding ops ++ (m.attemptAll ops).succeeding ops' := by
  induction ops generalizing m with
  | nil => rfl
  | cons op ops ih =>
    rw [List.cons_append, succeeding, succeeding, attemptAll, List.foldl_cons, attempt]
    cases op.perform m with
    | ok u m' => exact congrArg (List.cons op) (ih m')
    | error e m' => exact ih m'

/-- An operation that succeeds after the others is one of those that do. -/
theorem succeeding_append_of_ok {ops : List Operation}
    (h : op.perform (m.attemptAll ops) = .ok () m') :
    m.succeeding (ops ++ [op]) = m.succeeding ops ++ [op] := by
  rw [succeeding_append, succeeding, h]
  rfl

namespace IsConsistent

/-- What holds at the start of a run, and is carried on by every operation that leads to another
model, holds at its end. -/
theorem attemptAll_induction {P : List Operation → Model → Prop} {m : Model} (hm : m.IsConsistent)
    (hstart : P [] m)
    (hstep : ∀ done m op m', m.IsConsistent → P done m → op.Leads m m' → P (done ++ [op]) m')
    (ops : List Operation) : P (m.succeeding ops) (m.attemptAll ops) := by
  -- the operations before `ops` are kept in `done`
  suffices h : ∀ done m, m.IsConsistent → P done m →
      P (done ++ m.succeeding ops) (m.attemptAll ops) from h [] m hm hstart
  clear hstart hm m
  induction ops with
  | nil =>
    intro done m hm hP
    rw [succeeding, List.append_nil]
    exact hP
  | cons op ops ih =>
    intro done m hm hP
    rw [succeeding, attemptAll, List.foldl_cons]
    rcases hm.perform_ends op with ⟨m', hok, hleads⟩ | ⟨e, herror, -⟩
    · rw [hok, attempt_of_ok hok, List.append_cons]
      exact ih (done ++ [op]) m' (hleads.isConsistent hm) (hstep done m op m' hm hP hleads)
    · rw [herror, attempt_of_error herror]
      exact ih done m hm hP

/-- An operation keeps the model consistent, whether it succeeds or fails. -/
theorem attempt {m : Model} (hm : m.IsConsistent) (op : Operation) :
    (m.attempt op).IsConsistent := by
  rcases hm.perform_ends op with ⟨m', hok, hleads⟩ | ⟨e, herror, -⟩
  · rw [attempt_of_ok hok]
    exact hleads.isConsistent hm
  · rw [attempt_of_error herror]
    exact hm

/-- A run keeps the model consistent. -/
theorem attemptAll {m : Model} (hm : m.IsConsistent) (ops : List Operation) :
    (m.attemptAll ops).IsConsistent :=
  hm.attemptAll_induction (P := fun _ m => m.IsConsistent) hm
    (fun _ _ _ _ hm _ hleads => hleads.isConsistent hm) ops

end IsConsistent

/-- A run that ends with two repositories, one of which has a trigger. Three of its operations fail:
a name is taken, a size is out of range, and an entity is missing. -/
def sampleRun : List Operation :=
  [.createRepository "north", .createRepository "south", .createTrigger "north" "alpha",
    .changeLayer (.trigger "north" "alpha") (.assign (.text .group) (.string "inner")),
    .createTrigger "north" "alpha",
    .changeLayer (.repository "north") (.assign (.text .group) (.string "outer")),
    .changeLayer (.repository "north") (.setSizeText "+7"),
    .changeLayer (.trigger "north" "alpha") (.assign .versionHistorySize (.integer 4294967296)),
    .changeLayer (.trigger "south" "alpha") (.clear (.text .group)),
    .changeLayer .global (.reset false)]

end Model

end TriggerPlan
