import TriggerPlan.Proofs.Execution
import TriggerPlan.Proofs.Resolution.Success

/-!
# The order of materializing steps

No step that materializes resources needs another step, so all of them, of all pipelines, may be run
in any order. The directories of two triggers may coincide or lie in each other; still neither the
success of the steps nor the tree they leave depends on the order.
-/

namespace TriggerPlan

/-! ## Materializing steps -/

/-- The steps of a pipeline that materialize resources. -/
def Pipeline.materializingSteps (p : Pipeline) : List Step :=
  p.steps.filter fun s => s.kind = .materializeFixed ∨ s.kind = .materializeTemplates

/-- The steps that materialize resources, of all pipelines. -/
def Resolution.materializingSteps (res : Resolution) : List (Pipeline × Step) :=
  res.pipelines.flatMap fun p => p.materializingSteps.map fun s => (p, s)

namespace Compiler

variable {c : Compiler}

/-- The materializing steps of a trigger copy the wrapper into the one directory, and the templates
into the other. -/
theorem actions_of_materializingSteps (c : Compiler) (v : View) :
    (c.pipeline v).materializingSteps.map (·.action) =
      [.materialize wrapperResources (c.layout v).triggerDir executableResources,
        .materialize templateResources (c.layout v).templatesDir []] :=
  rfl

theorem copies_of_mem_materializingSteps {v : View} {s : Step}
    (hs : s ∈ (c.pipeline v).materializingSteps) : s.action.Copies := by
  have haction := List.mem_map_of_mem (f := (·.action)) hs
  rw [actions_of_materializingSteps, List.mem_cons, List.mem_singleton] at haction
  rcases haction with haction | haction <;> rw [haction]
  · exact .materialize _ wrapperResources_subset (by decide)
  · exact .materialize _ templateResources_subset (List.nil_subset _)

theorem copies_of_mem_flatMap {vs : List View} {x : Pipeline × Step}
    (hx : x ∈ (vs.map c.pipeline).flatMap fun p => p.materializingSteps.map fun s => (p, s)) :
    x.2.action.Copies := by
  obtain ⟨p, hp, hx⟩ := List.mem_flatMap.1 hx
  obtain ⟨v, -, rfl⟩ := List.mem_map.1 hp
  obtain ⟨s, hs, rfl⟩ := List.mem_map.1 hx
  exact copies_of_mem_materializingSteps hs

/-- If the materializing steps of all pipelines succeed in some order, then they succeed in every
order, and the tree they leave is the same. -/
theorem materialize_in_any_order {d : Declaration} {res : Resolution}
    (hres : c.resolve d = .ok res) (k : Collaborators) {t t' : FileTree}
    {order : List (Pipeline × Step)} (horder : order.Perm res.materializingSteps)
    (hrun : t.runSteps k order = (t', .ok ())) :
    ∀ order', order'.Perm res.materializingSteps → t.runSteps k order' = (t', .ok ()) := by
  obtain ⟨-, rfl⟩ := (c.resolve_yields d res).1 hres
  have hcopies : ∀ x ∈ order, x.2.action.Copies :=
    fun x hx => copies_of_mem_flatMap (horder.mem_iff.1 hx)
  exact fun order' horder' => FileTree.runSteps_perm hcopies (horder.trans horder'.symm) hrun

end Compiler

/-! ## Nested directories -/

/-- Two hosts of which the second has its directories among the files of the first. -/
def Declaration.nested : Declaration :=
  ⟨[.ofBlock "triggers" [.ofBlock "r" [.ofBlock "/out" [], .ofBlock "/out/gradle" []]]]⟩

/-- A compiler whose resources hold their own names. -/
def Compiler.naming : Compiler :=
  ⟨{}, ⟨fun name => some name.toUTF8⟩⟩

/-- What the declaration resolves to. -/
def Resolution.nested : Resolution :=
  ⟨Declaration.nested.model, Declaration.nested.views.map Compiler.naming.pipeline⟩

/-- The same resources, and collaborators that never fail. -/
def Collaborators.naming : Collaborators :=
  ⟨Compiler.naming.resources, fun _ => .ok ()⟩

/-- A tree with a script of a former run, and with a file that has nothing to do with it. -/
def FileTree.formerRun : FileTree :=
  ((FileTree.empty.put ["out"] (.directory 0o700)).put ["out", "gradlew"]
    (.file 0o600 .empty)).put ["out", "notes"] (.file 0o640 .empty)

namespace Compiler

theorem resolve_nested : naming.resolve .nested = .ok .nested :=
  (naming.resolve_yields .nested _).2 ⟨by decide +kernel, rfl⟩

/-- One after the other the steps of the two triggers succeed. -/
theorem runSteps_nested :
    ∃ t', FileTree.formerRun.runSteps .naming Resolution.nested.materializingSteps =
      (t', .ok ()) := by
  refine FileTree.exists_eq_ok ?_
  decide +kernel

/-- From the last to the first they leave the same tree. -/
theorem materialize_nested_in_reverse :
    ∃ t', FileTree.formerRun.runSteps .naming Resolution.nested.materializingSteps =
        (t', .ok ()) ∧
      FileTree.formerRun.runSteps .naming Resolution.nested.materializingSteps.reverse =
        (t', .ok ()) := by
  obtain ⟨t', hrun⟩ := runSteps_nested
  exact ⟨t', hrun, materialize_in_any_order resolve_nested .naming (List.Perm.refl _) hrun _
    (List.reverse_perm _)⟩

end Compiler

end TriggerPlan
