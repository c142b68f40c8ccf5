import TriggerPlan.Proofs.Model.Operation

/-!
# Failing operations

When an operation on a model that a run has reached fails, and in which error it ends. An entity is
not created if its name is blank, or otherwise if the same parent has that name already; a value is
not assigned if its attribute does not accept it. A failed operation has changed nothing, neither in
the entity that it was about nor elsewhere (`Model.failures_of_attemptAll`).
-/

namespace TriggerPlan

/-! ## Outcomes -/

/-- How the creation of an entity ends, if its parent has the path `path` and is called `parent` in
errors about duplicates. -/
structure Model.CreatesUnless (m : Model) (op : Operation) (path parent : String)
    (kind : EntityKind) (name : String) (taken : Prop) : Prop where
  blank : (∃ e, m.apply op = .error (.failed e) ∧ e.IsAbout path "name") ↔ Text.IsBlank name
  duplicate : m.apply op = .error (.failed (.duplicateEntity parent kind name)) ↔
    ¬Text.IsBlank name ∧ taken
  success : (∃ m', m.apply op = .ok m') ↔ ¬Text.IsBlank name ∧ ¬taken

/-- How an operation ends that gives a value for a field of the entity at `path`. -/
structure Model.ChangesIf (m : Model) (op : Operation) (path field : String) (acceptable : Prop) :
    Prop where
  fails_iff : (∃ e, m.apply op = .error e) ↔ ¬acceptable
  about : ∀ e, m.apply op = .error e → ∃ e', e = .failed e' ∧ e'.IsAbout path field

/-- An error about a field is not one about a duplicate. -/
theorem Error.IsAbout.ne_duplicateEntity {e : Error} {path field parent name : String}
    {kind : EntityKind} (h : e.IsAbout path field) : e ≠ .duplicateEntity parent kind name := by
  obtain ⟨value, reason, rfl⟩ := h
  simp

namespace Model

variable {m : Model} {op : Operation} {path parent name : String} {kind : EntityKind} {taken : Prop}

theorem CreatesUnless.of_ok {m' : Model} (h : m.apply op = .ok m')
    (hnamed : ¬Text.IsBlank name) (hfree : ¬taken) :
    m.CreatesUnless op path parent kind name taken where
  blank := by simp [h, hnamed]
  duplicate := by simp [h, hfree]
  success := by simp [h, hnamed, hfree]

theorem CreatesUnless.of_blank {e : Error} (h : m.apply op = .error (.failed e))
    (habout : e.IsAbout path "name") (hblank : Text.IsBlank name) :
    m.CreatesUnless op path parent kind name taken where
  blank := ⟨fun _ => hblank, fun _ => ⟨e, h, habout⟩⟩
  duplicate := by simp [h, hblank, habout.ne_duplicateEntity]
  success := by simp [h, hblank]

theorem CreatesUnless.of_taken
    (h : m.apply op = .error (.failed (.duplicateEntity parent kind name)))
    (hnamed : ¬Text.IsBlank name) (htaken : taken) :
    m.CreatesUnless op path parent kind name taken where
  blank := by
    rw [h]
    constructor
    · rintro ⟨e, he, habout⟩
      obtain rfl := Refusal.failed.inj (Except.error.inj he)
      exact absurd rfl habout.ne_duplicateEntity
    · intro hblank
      exact absurd hblank hnamed
  duplicate := ⟨fun _ => ⟨hnamed, htaken⟩, fun _ => h⟩
  success := by simp [h, htaken]

/-! ## Operations on consistent models -/

namespace IsConsistent

variable (hm : m.IsConsistent)
include hm

/-- A repository is created, unless its name is blank or taken. -/
theorem createsUnless_repository (name : String) :
    m.CreatesUnless (.createRepository name) "triggers" "triggers" .repository name
      ((m.repository? name).isSome = true) := by
  rcases hm.perform_ends (.createRepository name) with ⟨m', hok, hleads⟩ | ⟨e, herror, hrefused⟩
  · cases hleads with
    | createRepository named free => exact .of_ok (apply_eq_ok_iff.2 hok) named (by simp [free])
  · cases hrefused with
    | missing missing => cases missing
    | blankRepository blank about => exact .of_blank (apply_of_error herror) about blank
    | takenRepository taken =>
      -- no name that is taken is blank
      have hnamed := (hm.repositories name _ taken).named
      rw [hm.stored name _ taken] at hnamed
      exact .of_taken (apply_of_error herror) hnamed (Option.isSome_iff_exists.2 ⟨_, taken⟩)

/-- A trigger is created, unless its name is blank or its repository has it already. -/
theorem createsUnless_trigger (hr : (m.repository? name).isSome = true) (hostname : String) :
    m.CreatesUnless (.createTrigger name hostname) ("triggers/" ++ name) name .host hostname
      ((m.trigger? name hostname).isSome = true) := by
  rcases hm.perform_ends (.createTrigger name hostname) with
    ⟨m', hok, hleads⟩ | ⟨e, herror, hrefused⟩
  · cases hleads with
    | createTrigger owner named free =>
      have hfree : m.trigger? name hostname = none := by
        rw [trigger?_eq_bind, owner]
        exact free
      exact .of_ok (apply_eq_ok_iff.2 hok) named (by simp [hfree])
  · cases hrefused with
    | missing missing =>
      obtain ⟨r, hr⟩ := Option.isSome_iff_exists.1 hr
      rw [Operation.level, layerAt?, hr] at missing
      cases missing
    | blankHost blank about => exact .of_blank (apply_of_error herror) about blank
    | takenHost taken =>
      have hnamed := (hm.trigger taken).named
      exact .of_taken (apply_of_error herror) hnamed (Option.isSome_iff_exists.2 ⟨_, taken⟩)

/-- A level that the model has is found with its path. -/
theorem path_of_layerAt? {level : Level} {l : Layer} (hl : m.layerAt? level = some (path, l)) :
    path = level.path := by
  cases level with
  | global =>
    obtain ⟨rfl, -⟩ := Prod.mk.inj (Option.some.inj hl)
    rfl
  | repository name =>
    obtain ⟨r, hr, hfound⟩ := Option.map_eq_some_iff.1 hl
    obtain ⟨rfl, -⟩ := Prod.mk.inj hfound
    rw [Repository.path, hm.stored name r hr, repositoryPath_eq, Level.path]
  | trigger name hostname =>
    obtain ⟨t, ht, hfound⟩ := Option.map_eq_some_iff.1 hl
    obtain ⟨rfl, -⟩ := Prod.mk.inj hfound
    rw [(hm.trigger ht).path, Level.path]

/-- A layer is changed, unless the change cannot be made to a layer. -/
theorem changesIf {level : Level} (hlevel : (m.layerAt? level).isSome = true)
    (change : LayerChange) {key : SettingKey} (hkey : change.key? = some key) :
    m.ChangesIf (.changeLayer level change) level.path key.name change.IsAcceptable := by
  obtain ⟨⟨path, l⟩, hl⟩ := Option.isSome_iff_exists.1 hlevel
  obtain rfl : path = level.path := hm.path_of_layerAt? hl
  rcases hm.perform_ends (.changeLayer level change) with ⟨m', hok, hleads⟩ | ⟨e, herror, hrefused⟩
  · have hacceptable : change.IsAcceptable := by
      cases hleads <;> assumption
    have happly : m.apply (.changeLayer level change) = .ok m' := apply_eq_ok_iff.2 hok
    exact ⟨by simp [happly, hacceptable], by simp [happly]⟩
  · have happly : m.apply (.changeLayer level change) = .error e := apply_of_error herror
    cases hrefused with
    | missing missing =>
      rw [Operation.level, hl] at missing
      cases missing
    | unacceptable found unacceptable field about =>
      rw [hl] at found
      obtain ⟨rfl, -⟩ := Prod.mk.inj (Option.some.inj found)
      obtain rfl := Option.some.inj (field.symm.trans hkey)
      refine ⟨⟨fun _ => unacceptable, fun _ => ⟨_, happly⟩⟩, fun e' he' => ?_⟩
      obtain rfl := Except.error.inj (happly.symm.trans he')
      exact ⟨_, rfl, about⟩

/-- An operation that fails has changed nothing. -/
theorem eq_of_perform_error {e : Refusal} {m' : Model} (h : op.perform m = .error e m') :
    m' = m := by
  rcases hm.perform_ends op with ⟨m'', hok, -⟩ | ⟨e', herror, -⟩
  · rw [hok] at h
    cases h
  · rw [herror] at h
    exact (EStateM.Result.error.inj h).2.symm

end IsConsistent

/-- On a model that a run has reached, creations fail exactly on names that are blank or taken by an
entity of the same parent, assignments fail exactly on values that the attribute does not accept,
and no operation that fails has changed the model. -/
theorem failures_of_attemptAll (ops : List Operation) {m : Model}
    (hm : Model.new.attemptAll ops = m) :
    (∀ name, m.CreatesUnless (.createRepository name) "triggers" "triggers" .repository name
      ((m.repository? name).isSome = true)) ∧
    (∀ name hostname, (m.repository? name).isSome = true →
      m.CreatesUnless (.createTrigger name hostname) ("triggers/" ++ name) name .host hostname
        ((m.trigger? name hostname).isSome = true)) ∧
    (∀ level, (m.layerAt? level).isSome = true →
      (∀ key value, m.ChangesIf (.changeLayer level (.assign key value)) level.path key.name
        (key.Accepts value)) ∧
      ∀ text, m.ChangesIf (.changeLayer level (.setSizeText text)) level.path
        "versionHistorySize" (Size.IsNumeral text ∧ Size.value text < Size.bound)) ∧
    ∀ op e m', op.perform m = .error e m' → m' = m ∧ m.attempt op = m := by
  have hconsistent : m.IsConsistent := hm ▸ isConsistent_new.attemptAll ops
  refine ⟨hconsistent.createsUnless_repository, ?_, ?_, ?_⟩
  · intro name hostname hr
    exact hconsistent.createsUnless_trigger hr hostname
  · intro level hlevel
    constructor
    · intro key value
      exact hconsistent.changesIf hlevel (.assign key value) rfl
    · intro text
      exact hconsistent.changesIf hlevel (.setSizeText text) rfl
  · intro op e m' herror
    have heq : m' = m := hconsistent.eq_of_perform_error herror
    exact ⟨heq, (attempt_of_error herror).trans heq⟩

/-- After the sample run blank names, a taken host and a size out of range are refused with errors
about their places, and the same host is still free in the other repository. -/
theorem failures_of_sampleRun :
    (∃ e, (Model.new.attemptAll sampleRun).apply (.createRepository "\u2003") = .error (.failed e) ∧
      e.IsAbout "triggers" "name") ∧
    (∃ e, (Model.new.attemptAll sampleRun).apply (.createTrigger "north" "") = .error (.failed e) ∧
      e.IsAbout "triggers/north" "name") ∧
    (Model.new.attemptAll sampleRun).apply (.createTrigger "north" "alpha") =
      .error (.failed (.duplicateEntity "north" .host "alpha")) ∧
    (∃ m, (Model.new.attemptAll sampleRun).apply (.createTrigger "south" "alpha") = .ok m) ∧
    ∃ e, (Model.new.attemptAll sampleRun).apply
        (.changeLayer (.trigger "north" "alpha")
          (.assign .versionHistorySize (.integer 4294967296))) = .error (.failed e) ∧
      e.IsAbout "triggers/north/alpha" "versionHistorySize" := by
  obtain ⟨hrepository, htrigger, hlayer, -⟩ := failures_of_attemptAll sampleRun rfl
  refine ⟨?_, ?_, ?_, ?_, ?_⟩
  · exact (hrepository "\u2003").blank.2 (by decide)
  · exact (htrigger "north" "" (by decide)).blank.2 (by decide)
  · exact (htrigger "north" "alpha" (by decide)).duplicate.2 (by decide)
  · exact (htrigger "south" "alpha" (by decide)).success.2 (by decide)
  · obtain ⟨hassign, -⟩ := hlayer (.trigger "north" "alpha") (by decide)
    have hsize : ¬(0 ≤ (4294967296 : Int) ∧ (4294967296 : Int) < Size.bound) := by decide
    have hchanges := hassign .versionHistorySize (.integer 4294967296)
    obtain ⟨e, he⟩ := hchanges.fails_iff.2 hsize
    obtain ⟨e', rfl, habout⟩ := hchanges.about e he
    exact ⟨e', he, habout⟩

end Model

end TriggerPlan
