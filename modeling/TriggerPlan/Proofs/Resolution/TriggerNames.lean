import TriggerPlan.Proofs.Path
import TriggerPlan.Proofs.Pipeline.Identifiers
import TriggerPlan.Proofs.Resolution.Views

/-!
# Names of triggers

The name of a trigger runs the repository and the capitalized hostname together, and nothing checks
that the names of different triggers differ: `x` and `X` give the same name in one repository. What
goes by the name stands and falls with this: the identifiers of the steps, the look-up of pipelines,
and the archives.
-/

namespace TriggerPlan

/-- The names of all triggers of a model. -/
def Model.triggerNames (m : Model) : List TriggerName :=
  m.views.map (·.trigger.name)

/-- The steps of all pipelines, pipeline by pipeline. -/
def Resolution.steps (r : Resolution) : List Step :=
  r.pipelines.flatMap (·.steps)

/-! ## Identifiers -/

/-- The identifiers of the steps of a trigger. -/
def TriggerName.stepIds (n : TriggerName) : List String :=
  StepKind.all.map (·.stepId n)

theorem TriggerName.nodup_stepIds (n : TriggerName) : n.stepIds.Nodup := by
  have hall : StepKind.all.Nodup := by decide
  exact hall.map fun k k' h => (StepKind.stepId_injective h).1

/-- The steps of triggers with different names have different identifiers. -/
theorem TriggerName.disjoint_stepIds {n n' : TriggerName} (h : n ≠ n') :
    n.stepIds.Disjoint n'.stepIds := by
  intro id hid hid'
  obtain ⟨k, -, rfl⟩ := List.mem_map.1 hid
  obtain ⟨k', -, heq⟩ := List.mem_map.1 hid'
  exact h (StepKind.stepId_injective heq).2.symm

/-- The identifiers for a list of names are all different exactly if the names are. -/
theorem nodup_flatMap_stepIds {ns : List TriggerName} :
    (ns.flatMap TriggerName.stepIds).Nodup ↔ ns.Nodup := by
  rw [List.nodup_flatMap]
  constructor
  · rintro ⟨-, hdisjoint⟩
    refine hdisjoint.imp ?_
    rintro n _ hn rfl
    -- a name shares its identifiers with itself
    exact hn (List.mem_map_of_mem (StepKind.mem_all .render))
      (List.mem_map_of_mem (StepKind.mem_all .render))
  · intro hns
    exact ⟨fun n _ => n.nodup_stepIds, hns.imp TriggerName.disjoint_stepIds⟩

/-! ## Archives -/

namespace Compiler

/-- The directory of all archives. -/
def distributions (c : Compiler) : Path :=
  c.properties.buildRoot.child "distributions"

/-- The archive of the trigger of that name. -/
def archivePath (c : Compiler) (n : TriggerName) : Path :=
  c.distributions.child (n.text ++ ".zip")

/-- A name without a slash is that of a file among the archives. -/
theorem components_archivePath (c : Compiler) {n : TriggerName} (h : '/' ∉ n.text.toList) :
    (c.archivePath n).components = c.distributions.components ++ [.name (n.text ++ ".zip")] := by
  have htext : (n.text ++ ".zip").toList = n.text.toList ++ ['.', 'z', 'i', 'p'] := by
    rw [String.toList_append]
    rfl
  -- the ending is longer than any of the names that are no files
  have hlong {s : String} (hs : s.toList.length < 4) : n.text ++ ".zip" ≠ s := by
    rintro rfl
    rw [htext, List.length_append] at hs
    exact absurd hs (Nat.not_lt.2 (Nat.le_add_left _ _))
  refine Path.components_child (Path.text_child_ne_empty _ (by decide)) ?_ (hlong (by decide))
    (hlong (by decide)) (hlong (by decide))
  rw [htext, List.mem_append, not_or]
  exact ⟨h, by decide⟩

/-- Different names without slashes have archives in different places. -/
theorem archivePath_injective (c : Compiler) {n n' : TriggerName} (hn : '/' ∉ n.text.toList)
    (hn' : '/' ∉ n'.text.toList)
    (h : (c.archivePath n).components = (c.archivePath n').components) : n = n' := by
  rw [c.components_archivePath hn, c.components_archivePath hn'] at h
  have hlast : [Path.Component.name (n.text ++ ".zip")] = [.name (n'.text ++ ".zip")] :=
    List.append_cancel_left h
  have htext : n.text ++ ".zip" = n'.text ++ ".zip" :=
    Path.Component.name.inj (List.singleton_inj.1 hlast)
  exact congrArg TriggerName.mk ((String.append_left_inj ".zip").1 htext)

end Compiler

/-! ## Look-up by name -/

/-- A look-up by name ends at the first described trigger of this name. -/
theorem pipeline?_map_pipeline (c : Compiler) (m : Model) (vs : List View) (n : TriggerName) :
    (Resolution.mk m (vs.map c.pipeline)).pipeline? n.text =
      (vs.find? fun v => v.trigger.name = n).map c.pipeline := by
  have hname : (fun p : Pipeline => p.trigger.text == n.text) ∘ c.pipeline =
      fun v : View => decide (v.trigger.name = n) := by
    funext v
    rw [Function.comp_apply, Bool.eq_iff_iff, beq_iff_eq, decide_eq_true_eq]
    exact ⟨congrArg TriggerName.mk, congrArg TriggerName.text⟩
  rw [Resolution.pipeline?, List.find?_map, hname]

/-! ## Accepted declarations -/

namespace Declaration.IsAccepted

variable {d : Declaration} {s : ResourceSource}

/-- The names of the triggers of the model are those of the described triggers. -/
theorem triggerNames_perm (hd : d.IsAccepted s) :
    d.model.triggerNames.Perm (d.views.map (·.trigger.name)) :=
  hd.views_perm.map _

/-- The steps have different identifiers exactly if the triggers have different names. -/
theorem nodup_ids_iff (hd : d.IsAccepted s) (c : Compiler) :
    (((d.views.map c.pipeline).flatMap (·.steps)).map (·.id)).Nodup ↔
      d.model.triggerNames.Nodup := by
  have hids : ((d.views.map c.pipeline).flatMap (·.steps)).map (·.id) =
      (d.views.map (·.trigger.name)).flatMap TriggerName.stepIds := by
    rw [List.map_flatMap, List.flatMap_map, List.flatMap_map]
    rfl
  rw [hids, nodup_flatMap_stepIds, hd.triggerNames_perm.nodup_iff]

/-- The look-up of each trigger's name gives its own pipeline exactly if the triggers have different
names. -/
theorem forall_pipeline?_iff (hd : d.IsAccepted s) (c : Compiler) :
    (∀ v ∈ d.model.views,
      ((Resolution.mk d.model (d.views.map c.pipeline)).pipeline? v.trigger.name.text).map
        (fun p => (p.repository, p.hostname)) = some v.names) ↔
      d.model.triggerNames.Nodup := by
  have hlookup (n : TriggerName) :
      ((Resolution.mk d.model (d.views.map c.pipeline)).pipeline? n.text).map
        (fun p => (p.repository, p.hostname)) =
      (d.views.find? fun v => v.trigger.name = n).map View.names := by
    rw [pipeline?_map_pipeline, Option.map_map]
    rfl
  simp only [hlookup, hd.views_perm.mem_iff]
  rw [hd.triggerNames_perm.nodup_iff]
  constructor
  · intro hown
    refine (List.Nodup.of_map _ hd.nodup_names).map_on fun v hv w hw hname => ?_
    -- triggers of one name are found by one search, so they are in one place
    have hvw := hown v hv
    rw [hname, hown w hw] at hvw
    exact List.inj_on_of_nodup_map hd.nodup_names hv hw (Option.some.inj hvw).symm
  · intro hnames v hv
    rw [find?_key_eq_some hnames hv, Option.map_some]

/-- The archives of triggers whose names have no slash are in different places exactly if the
triggers have different names. -/
theorem nodup_archives_iff (hd : d.IsAccepted s) (c : Compiler)
    (hslash : ∀ n ∈ d.model.triggerNames, '/' ∉ n.text.toList) :
    ((d.views.map c.pipeline).map fun p => p.archive?.map Path.components).Nodup ↔
      d.model.triggerNames.Nodup := by
  have hplaces : ((d.views.map c.pipeline).map fun p => p.archive?.map Path.components) =
      (d.views.map (·.trigger.name)).map fun n => some (c.archivePath n).components := by
    rw [List.map_map, List.map_map]
    rfl
  rw [hplaces, hd.triggerNames_perm.nodup_iff]
  refine ⟨List.Nodup.of_map _, fun hnames => hnames.map_on fun n hn n' hn' heq => ?_⟩
  exact c.archivePath_injective (hslash n (hd.triggerNames_perm.mem_iff.2 hn))
    (hslash n' (hd.triggerNames_perm.mem_iff.2 hn')) (Option.some.inj heq)

end Declaration.IsAccepted

namespace Compiler

/-- The names of the triggers of a model are all different exactly if the identifiers of all steps
are, and exactly if the look-up of each trigger's name gives its own pipeline. If no name has a slash
in it, this is also exactly if the archives are in different places. -/
theorem distinct_names_iff {c : Compiler} {d : Declaration} {res : Resolution}
    (hres : c.resolve d = .ok res) :
    ((res.steps.map (·.id)).Nodup ↔ res.model.triggerNames.Nodup) ∧
    ((∀ v ∈ res.model.views,
      (res.pipeline? v.trigger.name.text).map (fun p => (p.repository, p.hostname)) =
        some v.names) ↔ res.model.triggerNames.Nodup) ∧
    ((∀ n ∈ res.model.triggerNames, '/' ∉ n.text.toList) →
      ((res.pipelines.map fun p => p.archive?.map Path.components).Nodup ↔
        res.model.triggerNames.Nodup)) := by
  obtain ⟨hd, rfl⟩ := (c.resolve_yields d res).1 hres
  exact ⟨hd.nodup_ids_iff c, hd.forall_pipeline?_iff c, hd.nodup_archives_iff c⟩

/-- The two triggers of the sample have different names, so all ten steps have identifiers of their
own, and both archives are places of their own. -/
theorem distinct_names_of_sample :
    ((Resolution.mk Declaration.sample.model
      (Declaration.sample.views.map sample.pipeline)).steps.map (·.id)).Nodup ∧
    ((Declaration.sample.views.map sample.pipeline).map
      fun p => p.archive?.map Path.components).Nodup := by
  obtain ⟨hids, -, harchives⟩ := distinct_names_iff resolve_sample
  have hnames : Declaration.sample.model.triggerNames.Nodup := by decide +kernel
  have hslash : ∀ n ∈ Declaration.sample.model.triggerNames, '/' ∉ n.text.toList := by
    decide +kernel
  exact ⟨hids.2 hnames, (harchives hslash).2 hnames⟩

end Compiler

/-! ## Names that collide -/

/-- A repository with two hosts that differ only in the case of their first characters. -/
def Declaration.capitalized : Declaration :=
  ⟨[.ofBlock "triggers" [.ofBlock "r" [.ofBlock "x" [], .ofBlock "X" []]]]⟩

/-- A repository with two hosts that differ only in the number of their slashes. -/
def Declaration.doubledSlash : Declaration :=
  ⟨[.ofBlock "triggers" [.ofBlock "a" [.ofBlock "/b" [], .ofBlock "//b" []]]]⟩

/-- Both hosts are accepted, and both triggers have the name `rX`. So the identifiers of their steps
are the same, their archives are one file, and the look-up of the name of the second gives the
pipeline of the first. Names with slashes can be different and still lead to one archive. -/
theorem Compiler.trigger_names_collide :
    (∃ res, sample.resolve .capitalized = .ok res ∧
      (res.model.trigger? "r" "x").map (·.name) = some ⟨"rX"⟩ ∧
      (res.model.trigger? "r" "X").map (·.name) = some ⟨"rX"⟩ ∧
      ¬res.model.triggerNames.Nodup ∧
      ¬(res.steps.map (·.id)).Nodup ∧
      ¬(res.pipelines.map (·.archive?)).Nodup ∧
      (res.pipeline? "rX").map (·.hostname) = some "x") ∧
    ∃ res, sample.resolve .doubledSlash = .ok res ∧
      res.model.triggerNames.Nodup ∧
      ¬(res.pipelines.map fun p => p.archive?.map Path.components).Nodup := by
  constructor
  · refine ⟨_, (sample.resolve_yields .capitalized _).2 ⟨by decide +kernel, rfl⟩, ?_⟩
    decide +kernel
  · refine ⟨_, (sample.resolve_yields .doubledSlash _).2 ⟨by decide +kernel, rfl⟩, ?_⟩
    decide +kernel

end TriggerPlan
