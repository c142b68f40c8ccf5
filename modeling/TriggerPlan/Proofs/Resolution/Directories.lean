import TriggerPlan.Proofs.Resolution.Containment

/-!
# Directories of triggers

Names of entities only have to be different, but directories are compared as paths: names with
slashes can lead two triggers into one directory or into each other's, and an absolute name leads
out of the layout altogether. `Compiler.directories_apart_iff` says exactly which names keep the
directories of two triggers apart; different names that are single steps do
(`NamesApart.of_single_steps`).
-/

namespace TriggerPlan

/-- Neither list starts with the other. -/
def Unrelated {α : Type} (as bs : List α) : Prop :=
  ¬as <+: bs ∧ ¬bs <+: as

instance {α : Type} [DecidableEq α] (as bs : List α) : Decidable (Unrelated as bs) :=
  inferInstanceAs (Decidable (¬as <+: bs ∧ ¬bs <+: as))

namespace Unrelated

variable {α : Type} {as bs : List α}

theorem comm : Unrelated as bs ↔ Unrelated bs as :=
  and_comm

/-- A common start does not matter. -/
theorem append_left_iff (start : List α) :
    Unrelated (start ++ as) (start ++ bs) ↔ Unrelated as bs := by
  rw [Unrelated, Unrelated, List.prefix_append_right_inj, List.prefix_append_right_inj]

theorem cons_iff {a : α} : Unrelated (a :: as) (a :: bs) ↔ Unrelated as bs :=
  append_left_iff [a]

/-- Lists that start differently are unrelated. -/
theorem of_head_ne {a b : α} (h : a ≠ b) : Unrelated (a :: as) (b :: bs) := by
  rw [Unrelated, List.cons_prefix_cons, List.cons_prefix_cons]
  exact ⟨fun hab => h hab.1, fun hba => h hba.1.symm⟩

/-- What comes after an unrelated list does not start with it either. -/
theorem not_prefix_append (h : Unrelated as bs) (end' : List α) : ¬as <+: bs ++ end' := by
  intro hprefix
  rcases List.prefix_or_prefix_of_prefix hprefix (List.prefix_append bs end') with hab | hba
  · exact h.1 hab
  · exact h.2 hba

end Unrelated

/-! ## Paths that lie apart -/

namespace Path

/-- The second path is the first one or lies inside it, component by component. -/
def Encloses (p q : Path) : Prop :=
  p.components <+: q.components

/-- Neither of two paths is the other or lies inside it. -/
def Apart (p q : Path) : Prop :=
  ¬p.Encloses q ∧ ¬q.Encloses p

instance (p q : Path) : Decidable (p.Encloses q) :=
  inferInstanceAs (Decidable (p.components <+: q.components))

instance (p q : Path) : Decidable (p.Apart q) :=
  inferInstanceAs (Decidable (¬p.Encloses q ∧ ¬q.Encloses p))

/-- What the names on a path stand for, wherever it starts. -/
def way (p : Path) : List Component :=
  p.steps.filterMap Component.ofStep?

theorem apart_iff {p q : Path} : p.Apart q ↔ Unrelated p.components q.components :=
  Iff.rfl

/-- An absolute path has its way from the root. -/
theorem components_of_isAbsolute {p : Path} (h : p.isAbsolute = true) :
    p.components = .root :: p.way := by
  rw [components, if_pos h]
  rfl

/-- The root is no component of a relative path. -/
theorem root_not_mem_components {p : Path} (h : p.isAbsolute = false) : .root ∉ p.components := by
  have hway : Component.root ∉ p.way := by
    rw [way, List.mem_filterMap]
    rintro ⟨s, -, hs⟩
    unfold Component.ofStep? at hs
    split at hs
    · cases hs
    · split at hs <;> cases hs
  rw [components, h, if_neg Bool.false_ne_true]
  split
  · rw [List.mem_cons, not_or]
    exact ⟨by simp, hway⟩
  · exact hway

/-- What a directory of the root leads to, for a relative path in it. -/
theorem components_area_join (root : Path) {area : String} (harea : area ∈ areas) {q : Path}
    (hq : q.isAbsolute = false) :
    ((root.child area).join q).components = root.components ++ .name area :: q.way := by
  have hne : area ≠ "" := by
    rintro rfl
    exact absurd harea (by decide)
  rw [components_join (text_child_ne_empty root hne) hq, components_area root harea,
    List.append_assoc, List.singleton_append]
  rfl

/-- Something joined to a path that is not empty is not empty either. -/
theorem text_join_ne_empty {p : Path} (hp : p.text ≠ "") (q : Path) : (p.join q).text ≠ "" := by
  rw [join]
  split
  · rename_i hq
    intro hempty
    simp [isAbsolute, hempty] at hq
  · split <;> simp [hp]

/-- An absolute path stands for itself. -/
theorem join_of_isAbsolute (p : Path) {q : Path} (hq : q.isAbsolute = true) : p.join q = q :=
  if_pos hq

/-- An absolute way and one in a directory of the root can only meet if the root is absolute. -/
theorem unrelated_area_iff (root : Path) {area : String} (harea : area ∈ areas) {p q : Path}
    (hp : p.isAbsolute = true) (hq : q.isAbsolute = false) :
    Unrelated p.components ((root.child area).join q).components ↔
      (root.isAbsolute = true → Unrelated p.way (root.way ++ .name area :: q.way)) := by
  rw [components_of_isAbsolute hp, components_area_join root harea hq]
  cases hroot : root.isAbsolute with
  | true =>
    rw [components_of_isAbsolute hroot, List.cons_append, Unrelated.cons_iff]
    exact ⟨fun h _ => h, fun h => h rfl⟩
  | false =>
    refine ⟨fun _ h => absurd h Bool.false_ne_true, fun _ => ?_⟩
    -- the second way does not start at the root
    have hstart := root_not_mem_components hroot
    cases hcomponents : root.components with
    | nil => exact Unrelated.of_head_ne nofun
    | cons c cs =>
      rw [hcomponents, List.mem_cons, not_or] at hstart
      exact Unrelated.of_head_ne hstart.1

end Path

/-! ## Names that keep directories apart -/

/-- What a trigger's names lead through from the directories of the layout, or from the root of the
file system if one of them is absolute. -/
def Layout.namesPath (names : String × String) : Path :=
  relativePath names.1 names.2

open Layout (namesPath)

/-- An absolute way of the first names does not meet that of the second ones in a directory of an
absolute build root. -/
def AvoidsArea (root : Path) (area : String) (a b : String × String) : Prop :=
  (namesPath a).isAbsolute = true → (namesPath b).isAbsolute = false → root.isAbsolute = true →
    Unrelated (namesPath a).way (root.way ++ .name area :: (namesPath b).way)

/-- The names of two triggers keep their directories apart: neither way leads through the other. Two
relative ways start from the same directory and two absolute ones from the same root; for one of
each kind it depends on the build root. -/
structure NamesApart (root : Path) (a b : String × String) : Prop where
  ways : (namesPath a).isAbsolute = (namesPath b).isAbsolute →
    Unrelated (namesPath a).way (namesPath b).way
  left : ∀ area ∈ ["triggers", "vtl"], AvoidsArea root area a b
  right : ∀ area ∈ ["triggers", "vtl"], AvoidsArea root area b a

/-- A name that is a single step down. -/
structure IsSingleStep (name : String) : Prop where
  no_slash : '/' ∉ name.toList
  not_empty : name ≠ ""
  not_current : name ≠ "."
  not_parent : name ≠ ".."

namespace IsSingleStep

variable {name : String} (h : IsSingleStep name)
include h

theorem steps_eq : (Path.mk name).steps = [name] := by
  have hne : name.toList ≠ [] := fun hnil => h.not_empty (String.toList_eq_nil_iff.1 hnil)
  rw [Path.steps_eq, Path.namesOf_of_not_mem h.no_slash hne, String.ofList_toList]

theorem ofStep?_eq : Path.Component.ofStep? name = some (.name name) := by
  rw [Path.Component.ofStep?, if_neg h.not_current, if_neg h.not_parent]

end IsSingleStep

/-- Names that are single steps lead through one directory each. -/
theorem Layout.namesPath_of_single_steps {a : String × String} (h : IsSingleStep a.1)
    (h' : IsSingleStep a.2) :
    (namesPath a).isAbsolute = false ∧ (namesPath a).way = [.name a.1, .name a.2] := by
  have hhost : (Path.mk a.2).isAbsolute = false := Path.isAbsolute_of_not_mem h'.no_slash
  refine ⟨(Path.isAbsolute_join_iff h.not_empty).2
    ⟨Path.isAbsolute_of_not_mem h.no_slash, hhost⟩, ?_⟩
  have hsteps : (namesPath a).steps = [a.1, a.2] := by
    rw [namesPath, relativePath, Path.child, Path.steps_join _ hhost, h.steps_eq, h'.steps_eq]
    rfl
  rw [Path.way, hsteps, List.filterMap_cons, h.ofStep?_eq, List.filterMap_cons, h'.ofStep?_eq]
  rfl

/-- Different names that are single steps keep the directories apart under every build root. -/
theorem NamesApart.of_single_steps (root : Path) {a b : String × String} (hne : a ≠ b)
    (ha : IsSingleStep a.1 ∧ IsSingleStep a.2) (hb : IsSingleStep b.1 ∧ IsSingleStep b.2) :
    NamesApart root a b := by
  obtain ⟨harelative, haway⟩ := Layout.namesPath_of_single_steps ha.1 ha.2
  obtain ⟨hbrelative, hbway⟩ := Layout.namesPath_of_single_steps hb.1 hb.2
  refine ⟨fun _ => ?_, fun _ _ habsolute => ?_, fun _ _ habsolute => ?_⟩
  · -- both ways have two steps, so one starts with the other only if they are equal
    rw [haway, hbway]
    refine ⟨fun h => hne ?_, fun h => hne ?_⟩
    · have heq := h.eq_of_length rfl
      simp only [List.cons.injEq, Path.Component.name.injEq, and_true] at heq
      exact Prod.ext heq.1 heq.2
    · have heq := h.eq_of_length rfl
      simp only [List.cons.injEq, Path.Component.name.injEq, and_true] at heq
      exact Prod.ext heq.1.symm heq.2.symm
  · rw [harelative] at habsolute
    exact absurd habsolute Bool.false_ne_true
  · rw [hbrelative] at habsolute
    exact absurd habsolute Bool.false_ne_true

namespace Layout

/-- The directories of two triggers in one directory of the layout lie apart exactly if their ways
do. -/
theorem apart_area_iff (root : Path) {area : String} (harea : area ∈ Path.areas)
    (a b : String × String) :
    ((root.child area).join (namesPath a)).Apart ((root.child area).join (namesPath b)) ↔
      ((namesPath a).isAbsolute = (namesPath b).isAbsolute →
        Unrelated (namesPath a).way (namesPath b).way) ∧
      AvoidsArea root area a b ∧ AvoidsArea root area b a := by
  rw [Path.apart_iff, AvoidsArea, AvoidsArea]
  cases ha : (namesPath a).isAbsolute <;> cases hb : (namesPath b).isAbsolute
  · rw [Path.components_area_join root harea ha, Path.components_area_join root harea hb,
      Unrelated.append_left_iff, Unrelated.cons_iff]
    simp
  · rw [Path.join_of_isAbsolute _ hb, Unrelated.comm, Path.unrelated_area_iff root harea hb ha]
    simp
  · rw [Path.join_of_isAbsolute _ ha, Path.unrelated_area_iff root harea ha hb]
    simp
  · rw [Path.join_of_isAbsolute _ ha, Path.join_of_isAbsolute _ hb,
      Path.components_of_isAbsolute ha, Path.components_of_isAbsolute hb, Unrelated.cons_iff]
    simp

/-- Both directories of two triggers lie apart exactly if the names keep them apart. -/
theorem apart_iff (root : Path) (a b : String × String) (n n' : TriggerName) :
    ((of root a.1 a.2 n).triggerDir.Apart (of root b.1 b.2 n').triggerDir ∧
        (of root a.1 a.2 n).templatesDir.Apart (of root b.1 b.2 n').templatesDir) ↔
      NamesApart root a b := by
  have htriggers := apart_area_iff root (by decide : "triggers" ∈ Path.areas) a b
  have htemplates := apart_area_iff root (by decide : "vtl" ∈ Path.areas) a b
  refine (and_congr htriggers htemplates).trans ?_
  constructor
  · rintro ⟨⟨hways, hleft, hright⟩, -, hleft', hright'⟩
    exact ⟨hways, by simpa using ⟨hleft, hleft'⟩, by simpa using ⟨hright, hright'⟩⟩
  · rintro ⟨hways, hleft, hright⟩
    rw [List.forall_mem_cons, List.forall_mem_singleton] at hleft hright
    exact ⟨⟨hways, hleft.1, hright.1⟩, hways, hleft.2, hright.2⟩

/-- If so, the directory of the one lies apart from the templates of the other. -/
theorem apart_templatesDir (root : Path) {a b : String × String} {n n' : TriggerName}
    (h : (of root a.1 a.2 n).triggerDir.Apart (of root b.1 b.2 n').triggerDir)
    (h' : (of root a.1 a.2 n).templatesDir.Apart (of root b.1 b.2 n').templatesDir) :
    (of root a.1 a.2 n).triggerDir.Apart (of root b.1 b.2 n').templatesDir := by
  -- if one of the names is absolute, its trigger has only one directory
  by_cases ha : (namesPath a).isAbsolute = true
  · have hsame : (of root a.1 a.2 n).triggerDir = (of root a.1 a.2 n).templatesDir := by
      have hjoin (p : Path) : p.join (relativePath a.1 a.2) = relativePath a.1 a.2 :=
        p.join_of_isAbsolute ha
      rw [of, hjoin, hjoin]
    rw [hsame]
    exact h'
  by_cases hb : (namesPath b).isAbsolute = true
  · have hsame : (of root b.1 b.2 n').templatesDir = (of root b.1 b.2 n').triggerDir := by
      have hjoin (p : Path) : p.join (relativePath b.1 b.2) = relativePath b.1 b.2 :=
        p.join_of_isAbsolute hb
      rw [of, hjoin, hjoin]
    rw [hsame]
    exact h
  · rw [Bool.not_eq_true] at ha hb
    have htrigger := Path.components_area_join root (by decide : "triggers" ∈ Path.areas) ha
    have htemplates := Path.components_area_join root (by decide : "vtl" ∈ Path.areas) hb
    rw [Path.apart_iff]
    show Unrelated ((root.child "triggers").join (namesPath a)).components
      ((root.child "vtl").join (namesPath b)).components
    rw [htrigger, htemplates, Unrelated.append_left_iff]
    exact Unrelated.of_head_ne (by decide)

end Layout

/-! ## What is packed and what is produced -/

/-- The directory that an action copies resources into. -/
def Action.destination? : Action → Option Path
  | .materialize _ destination _ => some destination
  | _ => none

/-- The directories that an action packs. -/
def Action.archived : Action → List Path
  | .archive sources _ => sources
  | _ => []

/-- Where an action puts what it produces: its copies of resources, or the directory that it renders
into. -/
def Action.produced : Action → List Path
  | .materialize resources destination _ => resources.map destination.child
  | .render _ outputDir _ => [outputDir]
  | _ => []

namespace Pipeline

/-- The directories that the steps of a pipeline copy resources into. -/
def destinations (p : Pipeline) : List Path :=
  p.steps.filterMap (·.action.destination?)

/-- The directories that the steps of a pipeline pack. -/
def archived (p : Pipeline) : List Path :=
  p.steps.flatMap (·.action.archived)

/-- Where the steps of a pipeline put what they produce. -/
def produced (p : Pipeline) : List Path :=
  p.steps.flatMap (·.action.produced)

/-- The paths of the trigger of a pipeline. -/
def layout (p : Pipeline) (root : Path) : Layout :=
  .of root p.repository p.hostname p.trigger

/-- The directories of two triggers lie apart, and what is packed for the one holds nothing that is
produced for the other. -/
structure LiesApart (p q : Pipeline) (root : Path) : Prop where
  triggerDirs : (p.layout root).triggerDir.Apart (q.layout root).triggerDir
  templatesDirs : (p.layout root).templatesDir.Apart (q.layout root).templatesDir
  packed : ∀ directory ∈ p.archived, ∀ file ∈ q.produced, ¬directory.Encloses file

end Pipeline

/-- A directory that lies apart from another does not enclose the copies of resources in it. -/
theorem Path.Apart.not_encloses_resource {p q : Path} (h : p.Apart q) (hq : q.text ≠ "") :
    ∀ name ∈ neededResources, ¬p.Encloses (q.child name) := by
  intro name hname
  rw [Encloses, child, components_join hq (isAbsolute_of_mem_neededResources name hname)]
  exact (apart_iff.1 h).not_prefix_append _

namespace Compiler

/-- The pipelines of two triggers lie apart exactly if the names keep their directories apart. -/
theorem liesApart_pipeline_iff (c : Compiler) (v w : View) :
    (c.pipeline v).LiesApart (c.pipeline w) c.properties.buildRoot ↔
      NamesApart c.properties.buildRoot v.names w.names := by
  rw [← Layout.apart_iff c.properties.buildRoot v.names w.names v.trigger.name w.trigger.name]
  constructor
  · intro h
    exact ⟨h.triggerDirs, h.templatesDirs⟩
  · rintro ⟨htriggers, htemplates⟩
    refine ⟨htriggers, htemplates, ?_⟩
    have hacross := Layout.apart_templatesDir c.properties.buildRoot htriggers htemplates
    have harchived : (c.pipeline v).archived = [(c.layout v).triggerDir] := rfl
    have hproduced : (c.pipeline w).produced =
        wrapperResources.map (c.layout w).triggerDir.child ++
          (templateResources.map (c.layout w).templatesDir.child ++ [(c.layout w).triggerDir]) :=
      rfl
    have hnotempty (area : String) (harea : area ≠ "") :
        ((c.properties.buildRoot.child area).join (Layout.namesPath w.names)).text ≠ "" :=
      Path.text_join_ne_empty (Path.text_child_ne_empty _ harea) _
    have hwrapper := htriggers.not_encloses_resource (hnotempty "triggers" (by decide))
    have hcopied := hacross.not_encloses_resource (hnotempty "vtl" (by decide))
    rw [harchived, hproduced]
    simp only [List.forall_mem_singleton, List.forall_mem_append, List.forall_mem_map]
    exact ⟨fun name hname => hwrapper name (wrapperResources_subset hname),
      fun name hname => hcopied name (templateResources_subset hname), htriggers.1⟩

/-- Each pipeline copies into the two directories of its trigger. Those of two pipelines lie apart
exactly if the names of the triggers keep them apart, and different names that are single steps
always do. -/
theorem directories_apart_iff {c : Compiler} {d : Declaration} {res : Resolution}
    (hres : c.resolve d = .ok res) :
    ∀ p ∈ res.pipelines,
      p.destinations = [(p.layout c.properties.buildRoot).triggerDir,
        (p.layout c.properties.buildRoot).templatesDir] ∧
      ∀ q ∈ res.pipelines,
        (p.LiesApart q c.properties.buildRoot ↔
          NamesApart c.properties.buildRoot p.names q.names) ∧
        (p.names ≠ q.names → IsSingleStep p.repository ∧ IsSingleStep p.hostname →
          IsSingleStep q.repository ∧ IsSingleStep q.hostname →
            p.LiesApart q c.properties.buildRoot) := by
  obtain ⟨-, rfl⟩ := (c.resolve_yields d res).1 hres
  intro p hp
  obtain ⟨v, -, rfl⟩ := List.mem_map.1 hp
  refine ⟨rfl, fun q hq => ?_⟩
  obtain ⟨w, -, rfl⟩ := List.mem_map.1 hq
  have hiff := c.liesApart_pipeline_iff v w
  exact ⟨hiff, fun hne hv hw => hiff.2 (.of_single_steps _ hne hv hw)⟩

/-- The two pipelines of the sample have names that are single steps, so they lie apart. -/
theorem directories_apart_in_sample :
    ∃ p ∈ Declaration.sample.views.map sample.pipeline,
      ∃ q ∈ Declaration.sample.views.map sample.pipeline,
        p.names = ("north", "alpha") ∧ q.names = ("north", "group") ∧
          p.LiesApart q sample.properties.buildRoot := by
  have hviews : Declaration.sample.views =
      [Declaration.sample.view Declaration.sampleRepository Declaration.sampleHost,
        Declaration.sample.view Declaration.sampleRepository (.ofBlock "group" [])] := rfl
  have hmem : ∀ v ∈ Declaration.sample.views,
      sample.pipeline v ∈ Declaration.sample.views.map sample.pipeline :=
    fun v hv => List.mem_map_of_mem hv
  rw [hviews, List.forall_mem_cons, List.forall_mem_singleton, ← hviews] at hmem
  have hnorth : IsSingleStep "north" := ⟨by decide, by decide, by decide, by decide⟩
  have halpha : IsSingleStep "alpha" := ⟨by decide, by decide, by decide, by decide⟩
  have hgroup : IsSingleStep "group" := ⟨by decide, by decide, by decide, by decide⟩
  refine ⟨_, hmem.1, _, hmem.2, rfl, rfl, ?_⟩
  exact ((directories_apart_iff resolve_sample _ hmem.1).2 _ hmem.2).2 (by decide)
    ⟨hnorth, halpha⟩ ⟨hnorth, hgroup⟩

end Compiler

/-! ## Names that lead into one directory -/

/-- Two hosts with one absolute name, two triggers whose names run together in the same way, and a
host with a name that leads through that of another. -/
def Declaration.overlapping : Declaration :=
  ⟨[.ofBlock "triggers"
    [.ofBlock "r" [.ofBlock "/out" []], .ofBlock "s" [.ofBlock "/out" []],
      .ofBlock "a" [.ofBlock "b/c" []], .ofBlock "a/b" [.ofBlock "c" []],
      .ofBlock "t" [.ofBlock "x" [], .ofBlock "x/y" []]]]⟩

/-- All six triggers are accepted, and each of them shares its directories with another one, or one
of the two lies in those of the other. -/
theorem Compiler.directories_overlap :
    ∃ res, sample.resolve .overlapping = .ok res ∧
      (res.pipelines.map fun p => (p.layout sample.properties.buildRoot).triggerDir.text) =
        ["/out", "/out", "build/triggers/a/b/c", "build/triggers/a/b/c", "build/triggers/t/x",
          "build/triggers/t/x/y"] ∧
      (res.pipelines.map (·.names)).Nodup ∧
      ∀ p ∈ res.pipelines, ∃ q ∈ res.pipelines, p.names ≠ q.names ∧
        ¬(p.layout sample.properties.buildRoot).triggerDir.Apart
            (q.layout sample.properties.buildRoot).triggerDir ∧
        ¬(p.layout sample.properties.buildRoot).templatesDir.Apart
            (q.layout sample.properties.buildRoot).templatesDir := by
  refine ⟨_, (sample.resolve_yields .overlapping _).2 ⟨by decide +kernel, rfl⟩, ?_⟩
  decide +kernel

end TriggerPlan
