import TriggerPlan.Proofs.Path
import TriggerPlan.Proofs.Resolution.Views
import TriggerPlan.Proofs.Text.UpperCase

/-!
# Places of what a pipeline writes

Each step writes below one directory of the build root, unless the names of the repository and the
host lead out of it: names are only checked for being blank, so they can be absolute or have `..`
among their steps. `Compiler.writesInside_iff` says exactly which names stay inside; those without
slashes do, other than `..` (`NamesStayInside.of_no_slash`).
-/

namespace TriggerPlan

/-! ## Places below a directory -/

namespace Path

/-- The path leads to a place in a directory of the root, and does not leave this directory on the
way. -/
def IsInside (p root : Path) (area : String) : Prop :=
  ∃ rest, p.components = root.components ++ .name area :: rest ∧ .parent ∉ rest

instance (p root : Path) (area : String) : Decidable (p.IsInside root area) :=
  decidable_of_iff
    (root.components ++ [Component.name area] <+: p.components ∧
      .parent ∉ p.components.drop (root.components ++ [Component.name area]).length) <| by
    constructor
    · rintro ⟨⟨rest, hrest⟩, hparent⟩
      rw [← hrest, List.drop_left] at hparent
      refine ⟨rest, ?_, hparent⟩
      rw [← hrest, List.append_assoc, List.singleton_append]
    · rintro ⟨rest, hrest, hparent⟩
      rw [← List.singleton_append, ← List.append_assoc] at hrest
      rw [hrest, List.drop_left]
      exact ⟨List.prefix_append _ rest, hparent⟩

/-- The directories of a build root. -/
def areas : List String :=
  ["triggers", "vtl", "distributions"]

theorem parent_mem_filterMap_iff {names : List String} :
    Component.parent ∈ names.filterMap Component.ofStep? ↔ ".." ∈ names := by
  have hparent (s : String) : Component.ofStep? s = some .parent ↔ s = ".." := by
    unfold Component.ofStep?
    split
    · rename_i hs
      subst hs
      simp
    · split <;> simp [*]
  simp [hparent]

/-- The directories lie in the root, also if the root is the empty path. -/
theorem components_area (root : Path) {area : String} (harea : area ∈ areas) :
    (root.child area).components = root.components ++ [.name area] := by
  have hplain : ∀ area ∈ areas, '/' ∉ area.toList ∧ area ≠ "" ∧ area ≠ "." ∧ area ≠ ".." := by
    decide
  have hempty : ∀ area ∈ areas,
      ((Path.mk "").child area).components = (Path.mk "").components ++ [.name area] := by
    decide +kernel
  by_cases hroot : root.text = ""
  · obtain ⟨text⟩ := root
    obtain rfl : text = "" := hroot
    exact hempty area harea
  · obtain ⟨hslash, hne, hdot, hdots⟩ := hplain area harea
    exact components_child hroot hslash hne hdot hdots

/-- What is looked at from a directory of the root is inside if there is no `..` in it. -/
theorem isInside_join_iff (root : Path) {area : String} (harea : area ∈ areas) {q : Path}
    (hq : q.isAbsolute = false) :
    ((root.child area).join q).IsInside root area ↔ ".." ∉ q.steps := by
  have hne : area ≠ "" := by
    rintro rfl
    exact absurd harea (by decide)
  have hcomponents : ((root.child area).join q).components =
      root.components ++ .name area :: q.steps.filterMap Component.ofStep? := by
    rw [components_join (text_child_ne_empty root hne) hq, components_area root harea,
      List.append_assoc, List.singleton_append]
  rw [IsInside, hcomponents, ← parent_mem_filterMap_iff]
  constructor
  · rintro ⟨rest, heq, hrest⟩
    obtain rfl := (List.cons.inj (List.append_cancel_left heq)).2
    exact hrest
  · intro hrest
    exact ⟨_, rfl, hrest⟩

namespace IsInside

variable {p root : Path} {area : String}

theorem text_ne_empty (h : p.IsInside root area) : p.text ≠ "" := by
  obtain ⟨rest, heq, -⟩ := h
  obtain ⟨text⟩ := p
  rintro rfl
  have hnil : (Path.mk "").components = [] := by decide +kernel
  rw [hnil] at heq
  simp at heq

/-- What is looked at from a place inside is inside too. -/
theorem join (h : p.IsInside root area) {q : Path} (hq : q.isAbsolute = false)
    (hdots : ".." ∉ q.steps) : (p.join q).IsInside root area := by
  obtain ⟨rest, heq, hrest⟩ := id h
  refine ⟨rest ++ q.steps.filterMap Component.ofStep?, ?_, ?_⟩
  · rw [components_join h.text_ne_empty hq, heq, List.append_assoc, List.cons_append]
  · rw [List.mem_append, parent_mem_filterMap_iff, not_or]
    exact ⟨hrest, hdots⟩

/-- A path is inside one directory only. -/
theorem area_eq {area' : String} (h : p.IsInside root area) (h' : p.IsInside root area') :
    area = area' := by
  obtain ⟨rest, heq, -⟩ := h
  obtain ⟨rest', heq', -⟩ := h'
  rw [heq] at heq'
  exact Component.name.inj (List.cons.inj (List.append_cancel_left heq')).1

end IsInside

/-- A joined path is absolute if one of its parts is. -/
theorem isAbsolute_join_iff {p q : Path} (hp : p.text ≠ "") :
    (p.join q).isAbsolute = false ↔ p.isAbsolute = false ∧ q.isAbsolute = false := by
  by_cases hq : q.isAbsolute = true
  · have hjoin : p.join q = q := if_pos hq
    rw [hjoin, hq]
    simp
  · rw [Bool.not_eq_true] at hq
    rw [isAbsolute_join hp hq, hq]
    simp

/-- A text without a slash is a relative path. -/
theorem isAbsolute_of_not_mem {s : String} (h : '/' ∉ s.toList) : (Path.mk s).isAbsolute = false := by
  cases hs : s.toList with
  | nil => simp [isAbsolute, hs]
  | cons c cs =>
    rw [hs, List.mem_cons, not_or] at h
    simpa [isAbsolute, hs] using Ne.symm h.1

/-- It has `..` among its steps only if it is `..` itself. -/
theorem dots_not_mem_steps {s : String} (h : '/' ∉ s.toList) (hdots : s ≠ "..") :
    ".." ∉ (Path.mk s).steps := by
  rw [steps_eq]
  by_cases hnil : s.toList = []
  · rw [show (Path.mk s).text.toList = [] from hnil]
    exact List.not_mem_nil
  · rw [namesOf_of_not_mem h hnil, String.ofList_toList, List.mem_singleton]
    exact hdots.symm

/-- What comes after a name does not make the path absolute. -/
theorem isAbsolute_append {s : String} (hs : s ≠ "") (t : String) :
    (Path.mk (s ++ t)).isAbsolute = (Path.mk s).isAbsolute := by
  have hne : s.toList ≠ [] := fun hnil => hs (String.toList_eq_nil_iff.1 hnil)
  obtain ⟨c, cs, hcs⟩ := List.exists_cons_of_ne_nil hne
  simp [isAbsolute, hcs]

end Path

/-! ## What steps write -/

/-- The paths that an action writes to. -/
def Action.writes : Action → List Path
  | .materialize _ destination _ => [destination]
  | .render _ outputDir _ => [outputDir]
  | .archive _ file => [file]
  | .publish _ _ => []

/-- The paths that a step writes to. -/
def Step.writes (s : Step) : List Path :=
  s.outputs ++ s.action.writes

/-- The directory of the build root that a step writes below. -/
def StepKind.area : StepKind → String
  | materializeFixed => "triggers"
  | materializeTemplates => "vtl"
  | render => "triggers"
  | archive => "distributions"
  | publish => "distributions"

/-- Everything that the steps of a pipeline write is inside the directories of the root. -/
def Pipeline.WritesInside (p : Pipeline) (root : Path) : Prop :=
  ∀ s ∈ p.steps, ∀ q ∈ s.writes, q.IsInside root s.kind.area

instance (p : Pipeline) (root : Path) : Decidable (p.WritesInside root) :=
  inferInstanceAs (Decidable (∀ s ∈ p.steps, ∀ q ∈ s.writes, q.IsInside root s.kind.area))

namespace Compiler

/-- The resources have names that do not lead out of the directory that they are copied into. -/
theorem isInside_child_resource {directory root : Path} {area : String}
    (h : directory.IsInside root area) :
    ∀ name ∈ neededResources, (directory.child name).IsInside root area := by
  have hsafe : ∀ name ∈ neededResources,
      (Path.mk name).isAbsolute = false ∧ ".." ∉ (Path.mk name).steps := by
    decide +kernel
  exact fun name hname => h.join (hsafe name hname).1 (hsafe name hname).2

/-- A pipeline writes inside if its two directories and its archive are inside. -/
theorem writesInside_pipeline_iff (c : Compiler) (v : View) (root : Path) :
    (c.pipeline v).WritesInside root ↔
      (c.layout v).triggerDir.IsInside root "triggers" ∧
        (c.layout v).templatesDir.IsInside root "vtl" ∧
          (c.layout v).archive.IsInside root "distributions" := by
  simp only [Pipeline.WritesInside, pipeline, triggerSteps, List.forall_mem_cons, Step.writes,
    Action.writes, resourcePaths, StepKind.area, List.forall_mem_append, List.forall_mem_map]
  constructor
  · rintro ⟨⟨-, htrigger, -⟩, ⟨-, htemplates, -⟩, -, ⟨-, harchive, -⟩, -⟩
    exact ⟨htrigger, htemplates, harchive⟩
  · rintro ⟨htrigger, htemplates, harchive⟩
    have hwrapper : ∀ r ∈ wrapperResources, _ := fun r hr =>
      isInside_child_resource htrigger r (wrapperResources_subset hr)
    have hcopied : ∀ r ∈ templateResources, _ := fun r hr =>
      isInside_child_resource htemplates r (templateResources_subset hr)
    simpa [htrigger, htemplates, harchive] using ⟨hwrapper, hcopied⟩

end Compiler

/-! ## Names that stay inside -/

/-- The names of a repository and a host do not lead out of a directory, neither one after the other
nor as they are run together in the name of the archive. -/
structure NamesStayInside (repository hostname : String) : Prop where
  repository_relative : (Path.mk repository).isAbsolute = false
  hostname_relative : (Path.mk hostname).isAbsolute = false
  repository_steps : ".." ∉ (Path.mk repository).steps
  hostname_steps : ".." ∉ (Path.mk hostname).steps
  archive_steps : ".." ∉ (Path.mk ((TriggerName.of repository hostname).text ++ ".zip")).steps

instance (repository hostname : String) : Decidable (NamesStayInside repository hostname) :=
  decidable_of_iff
    ((Path.mk repository).isAbsolute = false ∧ (Path.mk hostname).isAbsolute = false ∧
      ".." ∉ (Path.mk repository).steps ∧ ".." ∉ (Path.mk hostname).steps ∧
      ".." ∉ (Path.mk ((TriggerName.of repository hostname).text ++ ".zip")).steps)
    ⟨fun ⟨hrepository, hhostname, hrsteps, hhsteps, hfile⟩ =>
        ⟨hrepository, hhostname, hrsteps, hhsteps, hfile⟩,
      fun h => ⟨h.repository_relative, h.hostname_relative, h.repository_steps, h.hostname_steps,
        h.archive_steps⟩⟩

/-- Names without slashes stay inside, other than that of the directory above. -/
theorem NamesStayInside.of_no_slash {repository hostname : String}
    (hrepository : '/' ∉ repository.toList) (hhostname : '/' ∉ hostname.toList)
    (hrdots : repository ≠ "..") (hhdots : hostname ≠ "..") :
    NamesStayInside repository hostname := by
  have hfile : '/' ∉ ((TriggerName.of repository hostname).text ++ ".zip").toList := by
    rw [TriggerName.of, String.toList_append, String.toList_append, List.mem_append,
      List.mem_append, not_or, not_or]
    exact ⟨⟨hrepository, Text.slash_not_mem_capitalize hhostname⟩, by decide⟩
  have hending : (TriggerName.of repository hostname).text ++ ".zip" ≠ ".." := by
    intro heq
    have hlength := congrArg (fun s : String => s.toList.length) heq
    simp only [String.toList_append, List.length_append] at hlength
    have hzip : ".zip".toList.length = 4 := by decide
    have hdots : "..".toList.length = 2 := by decide
    omega
  exact ⟨Path.isAbsolute_of_not_mem hrepository, Path.isAbsolute_of_not_mem hhostname,
    Path.dots_not_mem_steps hrepository hrdots, Path.dots_not_mem_steps hhostname hhdots,
    Path.dots_not_mem_steps hfile hending⟩

namespace Layout

/-- The two directories of a trigger are inside if the names are relative and have no `..` in them.
If one of the names is absolute, the directories are one and the same. -/
theorem isInside_directories_iff (root : Path) {repository : String} (hne : repository ≠ "")
    (hostname : String) (name : TriggerName) :
    ((of root repository hostname name).triggerDir.IsInside root "triggers" ∧
        (of root repository hostname name).templatesDir.IsInside root "vtl") ↔
      ((Path.mk repository).isAbsolute = false ∧ (Path.mk hostname).isAbsolute = false) ∧
        ".." ∉ (Path.mk repository).steps ∧ ".." ∉ (Path.mk hostname).steps := by
  have hrelative : (relativePath repository hostname).isAbsolute = false ↔
      (Path.mk repository).isAbsolute = false ∧ (Path.mk hostname).isAbsolute = false :=
    Path.isAbsolute_join_iff hne
  rw [← hrelative]
  by_cases habs : (relativePath repository hostname).isAbsolute = false
  · have hsteps : (relativePath repository hostname).steps =
        (Path.mk repository).steps ++ (Path.mk hostname).steps :=
      Path.steps_join _ (hrelative.1 habs).2
    have hinside {area : String} (harea : area ∈ Path.areas) :
        ((root.child area).join (relativePath repository hostname)).IsInside root area ↔
          ".." ∉ (Path.mk repository).steps ∧ ".." ∉ (Path.mk hostname).steps := by
      rw [Path.isInside_join_iff root harea habs, hsteps, List.mem_append, not_or]
    rw [of, hinside (by decide), hinside (by decide), and_self, and_iff_right habs]
  · constructor
    · rintro ⟨htrigger, htemplates⟩
      -- both directories are the path of the names alone
      rw [Bool.not_eq_false] at habs
      have hsame (directory : Path) : directory.join (relativePath repository hostname) =
          relativePath repository hostname := if_pos habs
      have htrigger' : (relativePath repository hostname).IsInside root "triggers" :=
        hsame (root.child "triggers") ▸ htrigger
      have htemplates' : (relativePath repository hostname).IsInside root "vtl" :=
        hsame (root.child "vtl") ▸ htemplates
      exact absurd (htrigger'.area_eq htemplates') (by decide)
    · exact fun h => absurd h.1 habs

/-- The archive of a trigger whose repository has a relative name is inside if its name has no `..`
in it. -/
theorem isInside_archive_iff (root : Path) {repository : String} (hne : repository ≠ "")
    (hrelative : (Path.mk repository).isAbsolute = false) (hostname : String) :
    (of root repository hostname (.of repository hostname)).archive.IsInside root "distributions" ↔
      ".." ∉ (Path.mk ((TriggerName.of repository hostname).text ++ ".zip")).steps := by
  have habs : (Path.mk ((TriggerName.of repository hostname).text ++ ".zip")).isAbsolute = false := by
    have htext : (TriggerName.of repository hostname).text ++ ".zip" =
        repository ++ (Text.capitalize hostname ++ ".zip") :=
      String.append_assoc
    rw [htext, Path.isAbsolute_append hne, hrelative]
  exact Path.isInside_join_iff root (by decide) habs

end Layout

namespace Compiler

/-- A pipeline of an accepted declaration writes inside the directories of the build root exactly if
the names of its repository and its host stay inside. -/
theorem writesInside_iff {c : Compiler} {d : Declaration} {res : Resolution}
    (hres : c.resolve d = .ok res) :
    ∀ p ∈ res.pipelines,
      p.WritesInside c.properties.buildRoot ↔ NamesStayInside p.repository p.hostname := by
  obtain ⟨hd, rfl⟩ := (c.resolve_yields d res).1 hres
  intro p hp
  obtain ⟨v, hv, rfl⟩ := List.mem_map.1 hp
  obtain ⟨r, hr, h, hh, rfl⟩ := Declaration.mem_views.1 hv
  have hne : r.name ≠ "" := by
    intro hempty
    have hnamed := hd.level.named r hr
    rw [hempty] at hnamed
    exact hnamed (by decide)
  have hdirectories := Layout.isInside_directories_iff c.properties.buildRoot hne h.name
    (.of r.name h.name)
  have harchive (hrepository : (Path.mk r.name).isAbsolute = false) :=
    Layout.isInside_archive_iff c.properties.buildRoot hne hrepository h.name
  refine (c.writesInside_pipeline_iff _ _).trans ?_
  constructor
  · rintro ⟨htrigger, htemplates, hfile⟩
    obtain ⟨⟨hrepository, hhostname⟩, hrsteps, hhsteps⟩ := hdirectories.1 ⟨htrigger, htemplates⟩
    exact ⟨hrepository, hhostname, hrsteps, hhsteps, (harchive hrepository).1 hfile⟩
  · rintro ⟨hrepository, hhostname, hrsteps, hhsteps, hfile⟩
    obtain ⟨htrigger, htemplates⟩ := hdirectories.2 ⟨⟨hrepository, hhostname⟩, hrsteps, hhsteps⟩
    exact ⟨htrigger, htemplates, (harchive hrepository).2 hfile⟩

/-- Both pipelines of the sample write inside their build root. -/
theorem writesInside_of_sample :
    (Declaration.sample.views.map sample.pipeline).length = 2 ∧
      ∀ p ∈ Declaration.sample.views.map sample.pipeline,
        p.WritesInside sample.properties.buildRoot := by
  have hnames : ∀ p ∈ Declaration.sample.views.map sample.pipeline,
      NamesStayInside p.repository p.hostname := by
    decide +kernel
  refine ⟨by decide, fun p hp => ?_⟩
  exact (writesInside_iff resolve_sample p hp).2 (hnames p hp)

end Compiler

/-! ## Names that lead out -/

/-- A host with the name of an absolute path, a repository with the name of the directory above, and
a repository and a host that only lead up when they are run together. -/
def Declaration.escaping : Declaration :=
  ⟨[.ofBlock "triggers" [.ofBlock "r" [.ofBlock "/out" []], .ofBlock ".." [.ofBlock "x" []],
    .ofBlock "." [.ofBlock "./x" []]]]⟩

/-- All three are accepted, and none of them stays inside the directories of the build root. -/
theorem Compiler.names_lead_out :
    ∃ res, sample.resolve .escaping = .ok res ∧
      (res.pipelines.map fun p => p.steps.flatMap fun s => s.action.writes.map (·.text)) =
        [["/out", "/out", "/out", "build/distributions/r/out.zip"],
          ["build/triggers/../x", "build/vtl/../x", "build/triggers/../x",
            "build/distributions/..X.zip"],
          ["build/triggers/././x", "build/vtl/././x", "build/triggers/././x",
            "build/distributions/../x.zip"]] ∧
      ∀ p ∈ res.pipelines, ¬p.WritesInside sample.properties.buildRoot := by
  refine ⟨_, (sample.resolve_yields .escaping _).2 ⟨by decide +kernel, rfl⟩, ?_⟩
  decide +kernel

end TriggerPlan
