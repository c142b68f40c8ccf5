import TriggerPlan.Model.Basic

/-!
# Operations on the model

The ways in which a model can be changed after it was made: adding entities, setting what a
repository owns, and changing the layer of any level. An operation works in place: it looks up the
entity that it is about, changes it, and leaves it in the model as it is then, whether the change has
succeeded or failed.
-/

namespace TriggerPlan

/-- A level of the model, by the names of its entity. -/
inductive Level where
  | global
  | repository (name : String)
  | trigger (repository hostname : String)
  deriving DecidableEq, Repr

/-- A change to one layer. -/
inductive LayerChange where
  | assign (key : SettingKey) (value : Value)
  | clear (key : SettingKey)
  /-- Starts over from the built-in global settings, or from nothing. -/
  | reset (toGlobalDefaults : Bool)
  | setSize (size : Option UInt32)
  | setSizeText (text : String)
  deriving DecidableEq, Repr

/-- The layer of the entity at `path` after a change. -/
def Layer.change (l : Layer) (path : String) : LayerChange → Except Error Layer
  | .assign key value => l.assign path key value
  | .clear key => .ok (l.clear key)
  | .reset toGlobalDefaults => .ok (if toGlobalDefaults then .globalDefaults else .empty)
  | .setSize size => .ok (l.setSize size)
  | .setSizeText text => (l.setSize <| some ·) <$> Size.ofText path text

/-- A change to a model. -/
inductive Operation where
  | createRepository (name : String)
  | createTrigger (repository hostname : String)
  | setContextUrl (repository : String) (value : Option String)
  | setRepoKey (repository : String) (value : Option String)
  | changeLayer (level : Level) (change : LayerChange)
  deriving DecidableEq, Repr

/-- Why an operation was not carried out. -/
inductive Refusal where
  /-- The operation is about an entity that the model does not have. -/
  | noSuchEntity
  | failed (error : Error)
  deriving DecidableEq, Repr

namespace Model

/-- The path and the layer of a level, if the model has its entity. -/
def layerAt? (m : Model) : Level → Option (String × Layer)
  | .global => some (rootPath, m.settings)
  | .repository name => (m.repository? name).map fun r => (r.path, r.settings)
  | .trigger repository hostname =>
    (m.trigger? repository hostname).map fun t => (t.path, t.settings)

end Model

/-! ## Edits in place -/

/-- A computation on a state that it changes in place. What it has written stays written, also if it
fails afterwards. -/
abbrev Edit (σ : Type) : Type → Type := EStateM Refusal σ

namespace Edit

variable {σ τ : Type}

/-- Replaces the state by what is computed from it, if the computation succeeds. -/
def update (f : σ → Except Error σ) : Edit σ Unit := do
  match f (← get) with
  | .ok s => set s
  | .error e => throw (.failed e)

/-- Edits a part that the state may have. The part is put back as its edit leaves it, also if the
edit fails. -/
def inPart (part? : σ → Option τ) (put : σ → τ → σ) (edit : Edit τ Unit) : Edit σ Unit := do
  let s ← get
  match part? s with
  | none => throw .noSuchEntity
  | some t =>
    match edit t with
    | .ok _ t => set (put s t)
    | .error e t =>
      set (put s t)
      throw e

variable {s : σ}

theorem update_eq_ok {f : σ → Except Error σ} {t : σ} (h : f s = .ok t) :
    update f s = .ok () t := by
  show (match f s with | .ok t => set t | .error e => throw (.failed e) : Edit σ Unit) s = _
  rw [h]
  rfl

theorem update_eq_error {f : σ → Except Error σ} {e : Error} (h : f s = .error e) :
    update f s = .error (.failed e) s := by
  show (match f s with | .ok t => set t | .error e => throw (.failed e) : Edit σ Unit) s = _
  rw [h]
  rfl

variable {part? : σ → Option τ} {put : σ → τ → σ} {edit : Edit τ Unit} {t t' : τ}

theorem inPart_eq_noSuchEntity (hs : part? s = none) :
    inPart part? put edit s = .error .noSuchEntity s := by
  show (match part? s with | none => _ | some t => _ : Edit σ Unit) s = _
  rw [hs]
  rfl

theorem inPart_eq_ok (ht : part? s = some t) (h : edit t = .ok () t') :
    inPart part? put edit s = .ok () (put s t') := by
  show (match part? s with | none => _ | some t => _ : Edit σ Unit) s = _
  rw [ht]
  show (match edit t with | .ok _ t => _ | .error e t => _ : Edit σ Unit) s = _
  rw [h]
  rfl

theorem inPart_eq_error {e : Refusal} (ht : part? s = some t) (h : edit t = .error e t') :
    inPart part? put edit s = .error e (put s t') := by
  show (match part? s with | none => _ | some t => _ : Edit σ Unit) s = _
  rw [ht]
  show (match edit t with | .ok _ t => _ | .error e t => _ : Edit σ Unit) s = _
  rw [h]
  rfl

end Edit

/-- Edits one trigger of a repository. -/
def Repository.inTrigger (hostname : String) (edit : Edit Trigger Unit) : Edit Repository Unit :=
  .inPart (·.trigger? hostname) putTrigger edit

/-- Edits one repository of a model. -/
def Model.inRepository (name : String) (edit : Edit Repository Unit) : Edit Model Unit :=
  .inPart (·.repository? name) putRepository edit

/-- Changes the layer of a level. -/
def Model.editLayer (change : LayerChange) : Level → Edit Model Unit
  | .global => .update fun m => ({ m with settings := · }) <$> m.settings.change rootPath change
  | .repository name =>
    inRepository name <|
      .update fun r => ({ r with settings := · }) <$> r.settings.change r.path change
  | .trigger repository hostname =>
    inRepository repository <| Repository.inTrigger hostname <|
      .update fun t => ({ t with settings := · }) <$> t.settings.change t.path change

/-- Carries an operation out. -/
def Operation.perform : Operation → Edit Model Unit
  | .createRepository name => .update (·.createRepository name)
  | .createTrigger repository hostname =>
    Model.inRepository repository (.update (·.createTrigger hostname))
  | .setContextUrl repository value =>
    Model.inRepository repository (modify ({ · with contextUrl := value }))
  | .setRepoKey repository value =>
    Model.inRepository repository (modify ({ · with repoKey := value }))
  | .changeLayer level change => Model.editLayer change level

/-! ## Runs -/

namespace Model

/-- The model after an operation, if the operation succeeds. -/
def apply (m : Model) (op : Operation) : Except Refusal Model :=
  match op.perform m with
  | .ok _ m' => .ok m'
  | .error e _ => .error e

/-- The model that an operation leaves, whether it has succeeded or failed. -/
def attempt (m : Model) (op : Operation) : Model :=
  match op.perform m with
  | .ok _ m' => m'
  | .error _ m' => m'

/-- The model that a sequence of operations leaves. An operation that fails does not keep the later
ones from being carried out. -/
def attemptAll (m : Model) (ops : List Operation) : Model :=
  ops.foldl attempt m

end Model

end TriggerPlan
