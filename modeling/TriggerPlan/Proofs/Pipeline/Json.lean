import TriggerPlan.Pipeline.Json
import TriggerPlan.Proofs.SortedMap

/-!
# Reading pipelines back

A pipeline can be read back from the JSON that it is written as, whatever its steps are and whether
or not their kinds and actions go together. Reading asks for certain fields by name. So it gives the
same result if other fields are added to the objects (`Json.Extends.bind_field?`), among them the
fields that an action of another type would have.
-/

namespace TriggerPlan

/-! ## Reading what was written -/

/-- The value of a field is that of the first one with its name. -/
theorem Json.field?_object_cons (name' : String) (v : Json) (fs : List (String × Json))
    (name : String) : (object ((name', v) :: fs)).field? name =
      if name = name' then some v else (object fs).field? name := by
  rw [field?, List.lookup_cons, field?]
  by_cases h : name = name'
  · rw [if_pos h, h, BEq.rfl]
  · rw [if_neg h, beq_false_of_ne h]

/-- If each element can be read from what it is written as, so can a list of them. -/
theorem mapM_map_eq_some {α β : Type} {write : α → β} {read : β → Option α}
    (h : ∀ a, read (write a) = some a) (as : List α) : (as.map write).mapM read = some as := by
  induction as with
  | nil => rfl
  | cons a as ih => simp [h, ih]

/-- A context is read back from its JSON object. -/
@[simp] theorem Context.ofJson?_toJson (c : Context) : Context.ofJson? c.toJson = some c := by
  have hentries : (c.toList.map fun e => (e.1, Json.ofStringOrNull e.2)).mapM
      (fun e => (e.1, ·) <$> e.2.stringOrNull?) = some c.toList := by
    apply mapM_map_eq_some
    intro e
    simp
  rw [toJson, ofJson?, hentries]
  simp

@[simp] theorem Json.strings?_ofPaths (ps : List Path) :
    (Json.ofPaths ps).strings? = some (ps.map (·.text)) :=
  strings?_ofStrings _

@[simp] theorem Path.map_mk_comp_text (ps : List Path) : ps.map (Path.mk ∘ (·.text)) = ps :=
  List.map_id' ps

/-- An action is read back from its JSON object. -/
@[simp] theorem Action.ofJson?_toJson (a : Action) : Action.ofJson? a.toJson = some a := by
  cases a <;>
    simp [toJson, ofJson?, Json.stringField?, Json.stringsField?, Json.pathField?, Json.pathsField?,
      Json.field?_object_cons]

/-- A step is read back from its JSON object. -/
@[simp] theorem Step.ofJson?_toJson (s : Step) : Step.ofJson? s.toJson = some s := by
  simp [toJson, ofJson?, Json.stringField?, Json.stringsField?, Json.pathsField?,
    Json.field?_object_cons]

/-- A pipeline is read back from its JSON object. -/
theorem Pipeline.ofJson?_toJson (p : Pipeline) : Pipeline.ofJson? p.toJson = some p := by
  have hsteps : (p.steps.map Step.toJson).mapM Step.ofJson? = some p.steps :=
    mapM_map_eq_some Step.ofJson?_toJson p.steps
  simp [toJson, ofJson?, Json.stringField?, Json.field?_object_cons, Json.array?, hsteps]

/-! ## Unknown fields -/

namespace Json

/-- The second list has the fields of the first, in order, and between them others with names that
are not known. The values that the two have for a field are related by `R`. -/
inductive AddsFields (known : List String) (R : String → Json → Json → Prop) :
    List (String × Json) → List (String × Json) → Prop where
  | nil : AddsFields known R [] []
  | keep {name : String} {v v' : Json} {fs fs' : List (String × Json)} (value : R name v v')
    (rest : AddsFields known R fs fs') : AddsFields known R ((name, v) :: fs) ((name, v') :: fs')
  | add {name : String} (v : Json) {fs fs' : List (String × Json)} (unknown : name ∉ known)
    (rest : AddsFields known R fs fs') : AddsFields known R fs ((name, v) :: fs')

/-- The second value is the first one with unknown fields added, if it is an object. -/
inductive Extends (known : List String) (R : String → Json → Json → Prop) : Json → Json → Prop where
  | refl (j : Json) : Extends known R j j
  | object {fs fs' : List (String × Json)} (fields : AddsFields known R fs fs') :
    Extends known R (.object fs) (.object fs')

/-- What is read from a known field is not changed by unknown ones. -/
theorem Extends.bind_field? {known : List String} {R : String → Json → Json → Prop} {j j' : Json}
    (h : Extends known R j j') {name : String} (hname : name ∈ known) {α : Type}
    {read : Json → Option α} (hread : ∀ v v', R name v v' → read v' = read v) :
    (j'.field? name).bind read = (j.field? name).bind read := by
  cases h with
  | refl => rfl
  | object fields =>
    induction fields with
    | nil => rfl
    | @keep name' v v' fs fs' value rest ih =>
      rw [field?_object_cons, field?_object_cons]
      by_cases heq : name = name'
      · subst heq
        rw [if_pos rfl, if_pos rfl, Option.bind_some, Option.bind_some, hread v v' value]
      · rw [if_neg heq, if_neg heq, ih]
    | @add name' v fs fs' unknown rest ih =>
      have hne : name ≠ name' := by
        rintro rfl
        exact unknown hname
      rw [field?_object_cons, if_neg hne, ih]

end Json

/-- The fields that an action of some type has besides its type. -/
def Action.fieldNames : String → List String
  | "materialize" => ["resources", "destination", "executables"]
  | "render" => ["templatesDir", "outputDir", "context"]
  | "archive" => ["sources", "archive"]
  | "publish" => ["artifact", "classifier"]
  | _ => []

/-- The JSON of an action with fields added that are not those of its type. -/
def Action.Extends (j j' : Json) : Prop :=
  j.Extends ("type" :: ((j.stringField? "type").map fieldNames).getD []) (fun _ v v' => v = v') j'

/-- The JSON of a step with unknown fields added to it and to its action. -/
def Step.Extends (j j' : Json) : Prop :=
  j.Extends ["id", "kind", "needs", "inputs", "outputs", "action"]
    (fun name v v' => if name = "action" then Action.Extends v v' else v = v') j'

/-- Arrays of steps with unknown fields added to the steps. -/
inductive Step.ExtendsAll : Json → Json → Prop where
  | refl (j : Json) : ExtendsAll j j
  | array {js js' : List Json} (items : List.Forall₂ Step.Extends js js') :
    ExtendsAll (.array js) (.array js')

/-- The JSON of a pipeline with unknown fields added to it, to its steps and to their actions. -/
def Pipeline.Extends (j j' : Json) : Prop :=
  j.Extends ["trigger", "repository", "hostname", "steps"]
    (fun name v v' => if name = "steps" then Step.ExtendsAll v v' else v = v') j'

/-! ## Reading past unknown fields -/

namespace Json

variable {known : List String} {R : String → Json → Json → Prop} {j j' : Json} {name : String}

/-- Texts in known fields are read as before. -/
theorem Extends.stringField? (h : j.Extends known R j') (hname : name ∈ known)
    (hR : ∀ v v', R name v v' → v' = v) : j'.stringField? name = j.stringField? name := by
  apply h.bind_field? hname
  intro v v' hv
  rw [hR v v' hv]

/-- The same for lists of texts. -/
theorem Extends.stringsField? (h : j.Extends known R j') (hname : name ∈ known)
    (hR : ∀ v v', R name v v' → v' = v) : j'.stringsField? name = j.stringsField? name := by
  apply h.bind_field? hname
  intro v v' hv
  rw [hR v v' hv]

end Json

/-- Of the JSON of an action only the fields of its type count. -/
theorem Action.ofJson?_of_extends {j j' : Json} (h : Action.Extends j j') :
    Action.ofJson? j' = Action.ofJson? j := by
  have hsame : ∀ v v' : Json, v = v' → v' = v := fun _ _ => Eq.symm
  have htype : j'.stringField? "type" = j.stringField? "type" :=
    Json.Extends.stringField? h List.mem_cons_self hsame
  unfold ofJson?
  rw [htype]
  unfold Action.Extends at h
  cases hread : j.stringField? "type" with
  | none => rfl
  | some type =>
    rw [hread, Option.map_some, Option.getD_some] at h
    have hmem {name : String} (hname : name ∈ fieldNames type) : name ∈ "type" :: fieldNames type :=
      List.mem_cons_of_mem "type" hname
    have hstring (name : String) (hname : name ∈ fieldNames type) :
        j'.stringField? name = j.stringField? name := h.stringField? (hmem hname) hsame
    have hstrings (name : String) (hname : name ∈ fieldNames type) :
        j'.stringsField? name = j.stringsField? name := h.stringsField? (hmem hname) hsame
    have hcontext (hname : "context" ∈ fieldNames type) :
        (j'.field? "context").bind Context.ofJson? = (j.field? "context").bind Context.ofJson? :=
      h.bind_field? (hmem hname) fun v v' hv => by rw [hv]
    unfold Json.pathField? Json.pathsField?
    simp only [Option.bind_eq_bind, Option.bind_some]
    -- each type asks for its own fields
    split
    · rw [hstrings "resources" (by decide), hstring "destination" (by decide),
        hstrings "executables" (by decide)]
    · rw [hstring "templatesDir" (by decide), hstring "outputDir" (by decide),
        hcontext (by decide)]
    · rw [hstrings "sources" (by decide), hstring "archive" (by decide)]
    · rw [hstring "artifact" (by decide), hstring "classifier" (by decide)]
    · rfl

/-- Of the JSON of a step only its own fields count, and those of its action. -/
theorem Step.ofJson?_of_extends {j j' : Json} (h : Step.Extends j j') :
    Step.ofJson? j' = Step.ofJson? j := by
  have hsame (name : String) (hname : name ≠ "action") (v v' : Json)
      (hv : if name = "action" then Action.Extends v v' else v = v') : v' = v := by
    rw [if_neg hname] at hv
    exact hv.symm
  have hkind : (j'.stringField? "kind").bind StepKind.ofName? =
      (j.stringField? "kind").bind StepKind.ofName? := by
    rw [h.stringField? (by decide) (hsame "kind" (by decide))]
  have haction : (j'.field? "action").bind Action.ofJson? =
      (j.field? "action").bind Action.ofJson? := by
    apply h.bind_field? (by decide)
    intro v v' hv
    rw [if_pos rfl] at hv
    exact Action.ofJson?_of_extends hv
  unfold ofJson? Json.pathsField?
  rw [h.stringField? (by decide) (hsame "id" (by decide)), hkind,
    h.stringsField? (by decide) (hsame "needs" (by decide)),
    h.stringsField? (by decide) (hsame "inputs" (by decide)),
    h.stringsField? (by decide) (hsame "outputs" (by decide)), haction]

/-- Steps that are read alike make lists that are read alike. -/
theorem mapM_eq_of_forall₂ {js js' : List Json} (h : List.Forall₂ Step.Extends js js') :
    js'.mapM Step.ofJson? = js.mapM Step.ofJson? := by
  induction h with
  | nil => rfl
  | cons hj _ ih => rw [List.mapM_cons, List.mapM_cons, Step.ofJson?_of_extends hj, ih]

/-- Of the JSON of a pipeline only its own fields count, and those of its steps. -/
theorem Pipeline.ofJson?_of_extends {j j' : Json} (h : Pipeline.Extends j j') :
    Pipeline.ofJson? j' = Pipeline.ofJson? j := by
  have hsame (name : String) (hname : name ≠ "steps") (v v' : Json)
      (hv : if name = "steps" then Step.ExtendsAll v v' else v = v') : v' = v := by
    rw [if_neg hname] at hv
    exact hv.symm
  have hsteps : ((j'.field? "steps").bind Json.array?).bind (·.mapM Step.ofJson?) =
      ((j.field? "steps").bind Json.array?).bind (·.mapM Step.ofJson?) := by
    rw [Option.bind_assoc, Option.bind_assoc]
    apply h.bind_field? (by decide)
    intro v v' hv
    rw [if_pos rfl] at hv
    cases hv with
    | refl => rfl
    | array items => exact mapM_eq_of_forall₂ items
  unfold ofJson?
  rw [h.stringField? (by decide) (hsame "trigger" (by decide)),
    h.stringField? (by decide) (hsame "repository" (by decide)),
    h.stringField? (by decide) (hsame "hostname" (by decide)), hsteps]

/-- Every pipeline is read back from what it is written as, and fields that are not asked for make
no difference to what is read. -/
theorem Pipeline.json_round_trip :
    (∀ p : Pipeline, Pipeline.ofJson? p.toJson = some p) ∧
    ∀ j j', Pipeline.Extends j j' → Pipeline.ofJson? j' = Pipeline.ofJson? j :=
  ⟨ofJson?_toJson, fun _ _ => ofJson?_of_extends⟩

/-- A step that uploads an archive. -/
def Step.upload : Step :=
  ⟨"publish_rX", .publish, [], [], [], .publish ⟨"rX.zip"⟩ "rX"⟩

/-- A pipeline of that step alone. -/
def Pipeline.upload : Pipeline :=
  ⟨⟨"rX"⟩, "r", "x", [.upload]⟩

/-- The JSON of its action, with fields of two other types of actions. -/
def Action.annotatedUpload : Json :=
  .object [("type", .string "publish"), ("resources", .array [.string "gradlew"]),
    ("artifact", .string "rX.zip"), ("classifier", .string "rX"), ("context", .object [])]

/-- The JSON of its step, with a note. -/
def Step.annotatedUpload : Json :=
  .object [("id", .string "publish_rX"), ("kind", .string "publish"), ("needs", .array []),
    ("inputs", .array []), ("outputs", .array []), ("note", .null),
    ("action", Action.annotatedUpload)]

/-- The JSON of the pipeline, with a version. -/
def Pipeline.annotatedUpload : Json :=
  .object [("version", .number "2"), ("trigger", .string "rX"), ("repository", .string "r"),
    ("hostname", .string "x"), ("steps", .array [Step.annotatedUpload])]

/-- The pipeline is read from it all the same. -/
theorem Pipeline.read_annotatedUpload :
    Pipeline.Extends upload.toJson annotatedUpload ∧
      Pipeline.ofJson? annotatedUpload = some upload := by
  have haction : Action.Extends Step.upload.action.toJson Action.annotatedUpload :=
    .object (.keep rfl (.add _ (by decide) (.keep rfl (.keep rfl (.add _ (by decide) .nil)))))
  have hstep : Step.Extends Step.upload.toJson Step.annotatedUpload :=
    .object (.keep ((if_neg (by decide)).mpr rfl) (.keep ((if_neg (by decide)).mpr rfl)
      (.keep ((if_neg (by decide)).mpr rfl) (.keep ((if_neg (by decide)).mpr rfl)
      (.keep ((if_neg (by decide)).mpr rfl) (.add _ (by decide)
      (.keep ((if_pos rfl).mpr haction) .nil)))))))
  have hextends : Pipeline.Extends upload.toJson annotatedUpload :=
    .object (.add _ (by decide) (.keep ((if_neg (by decide)).mpr rfl)
      (.keep ((if_neg (by decide)).mpr rfl) (.keep ((if_neg (by decide)).mpr rfl)
      (.keep ((if_pos rfl).mpr (.array (.cons hstep .nil))) .nil)))))
  exact ⟨hextends, (json_round_trip.2 _ _ hextends).trans (json_round_trip.1 upload)⟩

end TriggerPlan
