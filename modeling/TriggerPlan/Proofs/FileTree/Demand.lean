import Mathlib.Data.List.Induction
import Mathlib.Data.List.Perm.Basic
import TriggerPlan.FileTree.Basic

/-!
# Demands on the places of a file tree

What operations do to a tree is described by demands: this place has to be a directory, that one a
file with this content. Whether demands can be settled is a matter of the tree they are met in and
of what stands where (`CanSettle`), so it can be checked in parts (`canSettle_append`) and does not
depend on their order; neither does the tree that results (`settle_perm`).
-/

namespace TriggerPlan

/-! ## Demands -/

/-- What is wanted at a place. -/
inductive Wanted where
  | directory
  | file (content : ByteArray)
  /-- A file with the permission bits of an executable one. -/
  | executable
  deriving DecidableEq

namespace Wanted

def isDirectory : Wanted → Bool
  | directory => true
  | _ => false

/-- Whether what stands at a place, if anything, is of the wanted kind. -/
def Allows (w : Wanted) (e : Option FileEntry) : Prop :=
  ∀ x, e = some x → x.isDirectory = w.isDirectory

/-- What is made of the entry at a place. -/
def entry : Wanted → Option FileEntry → FileEntry
  | directory, some (.directory mode) => .directory mode
  | directory, _ => .directory executableMode
  | file content, e => .file ((e.map FileEntry.mode).getD newFileMode) content
  | executable, some (.file _ content) => .file executableMode content
  | executable, _ => .file executableMode .empty

/-- Whether the entry at a place is as wanted. -/
def IsMetBy : Wanted → Option FileEntry → Prop
  | directory, e => ∃ mode, e = some (.directory mode)
  | file content, e => ∃ mode, e = some (.file mode content)
  | executable, e => ∃ content, e = some (.file executableMode content)

theorem allows_none (w : Wanted) : w.Allows none := by
  intro x hx
  cases hx

theorem allows_some_iff {w : Wanted} {e : FileEntry} :
    w.Allows (some e) ↔ e.isDirectory = w.isDirectory := by
  constructor
  · intro h
    exact h e rfl
  · rintro h x hx
    rw [← Option.some.inj hx, h]

@[simp] theorem isDirectory_entry (w : Wanted) (e : Option FileEntry) :
    (w.entry e).isDirectory = w.isDirectory := by
  rcases w with _ | content | _ <;> rcases e with _ | ⟨mode⟩ | ⟨mode, x⟩ <;> rfl

theorem isMetBy_entry (w : Wanted) (e : Option FileEntry) : w.IsMetBy (some (w.entry e)) := by
  rcases w with _ | content | _ <;> rcases e with _ | ⟨mode⟩ | ⟨mode, x⟩ <;> exact ⟨_, rfl⟩

/-- The two can be wanted at one place. -/
structure Agrees (w w' : Wanted) : Prop where
  kind : w.isDirectory = w'.isDirectory
  content : ∀ c c', w = .file c → w' = .file c' → c = c'

/-- What can be wanted at one place can be met in either order. -/
theorem Agrees.entry_comm {w w' : Wanted} (h : w.Agrees w') (e : Option FileEntry) :
    w'.entry (some (w.entry e)) = w.entry (some (w'.entry e)) := by
  have hkind := h.kind
  rcases w with _ | c | _ <;> rcases w' with _ | c' | _
  case file.file =>
    obtain rfl := h.content c c' rfl rfl
    rfl
  all_goals first
    | exact Bool.noConfusion hkind
    | rcases e with _ | ⟨mode⟩ | ⟨mode, x⟩ <;> rfl

/-- What is as wanted stays so when something else is met that can be wanted with it. -/
theorem Agrees.isMetBy_entry {w w' : Wanted} (h : w.Agrees w') {e : Option FileEntry}
    (hmet : w.IsMetBy e) : w.IsMetBy (some (w'.entry e)) := by
  have hkind := h.kind
  rcases w with _ | c | _ <;> obtain ⟨x, rfl⟩ := hmet <;> rcases w' with _ | c' | _
  case file.file =>
    obtain rfl := h.content c c' rfl rfl
    exact ⟨x, rfl⟩
  all_goals first
    | exact Bool.noConfusion hkind
    | exact ⟨_, rfl⟩

end Wanted

/-- What is wanted, and at which place. -/
structure Demand where
  place : List String
  wanted : Wanted
  deriving DecidableEq

/-- The contents of all wanted files are given by their places. -/
def ContentsFrom (f : List String → ByteArray) (ds : List Demand) : Prop :=
  ∀ d ∈ ds, ∀ content, d.wanted = .file content → content = f d.place

theorem contentsFrom_flatMap {α : Type} {f : List String → ByteArray} {l : List α}
    {demands : α → List Demand} (h : ∀ a ∈ l, ContentsFrom f (demands a)) :
    ContentsFrom f (l.flatMap demands) := by
  intro d hd
  obtain ⟨a, ha, hd⟩ := List.mem_flatMap.1 hd
  exact h a ha d hd

namespace FileTree

/-! ## Settling demands -/

/-- The tree in which a demand is met. -/
def fulfil (t : FileTree) (d : Demand) : FileTree :=
  t.put d.place (d.wanted.entry (t.get? d.place))

/-- The tree after demands have been met, one after the other. -/
def settle (t : FileTree) (ds : List Demand) : FileTree :=
  ds.foldl fulfil t

/-- There is nothing of the wrong kind at the places of the demands, and none of them is wanted both
as a file and as a directory. -/
structure CanSettle (t : FileTree) (ds : List Demand) : Prop where
  allowed : ∀ d ∈ ds, d.wanted.Allows (t.get? d.place)
  compatible : ∀ d ∈ ds, ∀ d' ∈ ds, d.place = d'.place →
    d.wanted.isDirectory = d'.wanted.isDirectory

variable {t : FileTree} {ds ds' : List Demand} {d : Demand} {place : List String}

theorem get?_fulfil (t : FileTree) (d : Demand) (place : List String) :
    (t.fulfil d).get? place =
      if place = d.place then some (d.wanted.entry (t.get? place)) else t.get? place := by
  rw [fulfil, get?_put]
  split
  · rename_i h
    rw [h]
  · rfl

@[simp] theorem settle_nil (t : FileTree) : t.settle [] = t :=
  rfl

@[simp] theorem settle_singleton (t : FileTree) (d : Demand) : t.settle [d] = t.fulfil d :=
  rfl

theorem settle_append (t : FileTree) (ds ds' : List Demand) :
    t.settle (ds ++ ds') = (t.settle ds).settle ds' :=
  List.foldl_append

theorem settle_concat (t : FileTree) (ds : List Demand) (d : Demand) :
    t.settle (ds ++ [d]) = (t.settle ds).fulfil d :=
  t.settle_append ds [d]

/-- Where nothing is demanded, nothing changes. -/
theorem get?_settle_of_ne (h : ∀ d ∈ ds, d.place ≠ place) :
    (t.settle ds).get? place = t.get? place := by
  induction ds using List.reverseRecOn with
  | nil => rfl
  | append_singleton ds d ih =>
    rw [List.forall_mem_append, List.forall_mem_singleton] at h
    rw [settle_concat, get?_fulfil, if_neg (Ne.symm h.2), ih h.1]

/-! ## What stands at the places afterwards -/

theorem CanSettle.of_subset (h : t.CanSettle ds) (hsub : ds' ⊆ ds) : t.CanSettle ds' :=
  ⟨fun d hd => h.allowed d (hsub hd),
    fun d hd d' hd' => h.compatible d (hsub hd) d' (hsub hd')⟩

/-- At the place of each demand among the others these want something of the same kind. -/
def Covers (ds others : List Demand) : Prop :=
  ∀ d ∈ others, ∃ d' ∈ ds, d'.place = d.place ∧ d'.wanted.isDirectory = d.wanted.isDirectory

theorem covers_of_subset (h : ds' ⊆ ds) : Covers ds ds' :=
  fun d hd => ⟨d, h hd, rfl, rfl⟩

theorem Covers.append {es es' : List Demand} (h : Covers ds ds') (h' : Covers es es') :
    Covers (ds ++ es) (ds' ++ es') := by
  intro d hd
  rcases List.mem_append.1 hd with hd | hd
  · obtain ⟨d', hd', hkind⟩ := h d hd
    exact ⟨d', List.mem_append_left _ hd', hkind⟩
  · obtain ⟨d', hd', hkind⟩ := h' d hd
    exact ⟨d', List.mem_append_right _ hd', hkind⟩

/-- Whether demands can be settled is a matter of kinds: it is not asked which bytes a file is to
have. -/
theorem CanSettle.of_covers (h : t.CanSettle ds) (hcovers : Covers ds ds') : t.CanSettle ds' := by
  constructor
  · intro d hd x hx
    obtain ⟨d', hd', hplace, hkind⟩ := hcovers d hd
    rw [← hplace] at hx
    rw [← hkind]
    exact h.allowed d' hd' x hx
  · intro d hd e he hplaces
    obtain ⟨d', hd', hdplace, hdkind⟩ := hcovers d hd
    obtain ⟨e', he', heplace, hekind⟩ := hcovers e he
    rw [← hdkind, ← hekind]
    refine h.compatible d' hd' e' he' ?_
    rw [hdplace, hplaces, heplace]

theorem CanSettle.of_append (h : t.CanSettle (ds ++ ds')) : t.CanSettle ds :=
  h.of_subset (List.subset_append_left ds ds')

theorem canSettle_nil (t : FileTree) : t.CanSettle [] :=
  ⟨nofun, nofun⟩

theorem canSettle_singleton : t.CanSettle [d] ↔ d.wanted.Allows (t.get? d.place) := by
  constructor
  · intro h
    exact h.allowed d (List.mem_singleton_self d)
  · intro h
    exact ⟨List.forall_mem_singleton.2 h, by simp⟩

/-- There is something of the wanted kind at the place of each demand. -/
theorem CanSettle.exists_entry (h : t.CanSettle ds) (hd : d ∈ ds) :
    ∃ e, (t.settle ds).get? d.place = some e ∧ e.isDirectory = d.wanted.isDirectory := by
  induction ds using List.reverseRecOn with
  | nil => exact absurd hd List.not_mem_nil
  | append_singleton ds last ih =>
    have hlast : last ∈ ds ++ [last] := List.mem_append_right ds (List.mem_singleton_self last)
    rw [settle_concat, get?_fulfil]
    by_cases hplace : d.place = last.place
    · -- the last demand for a place decides what stands there
      rw [if_pos hplace]
      refine ⟨_, rfl, ?_⟩
      rw [Wanted.isDirectory_entry]
      exact (h.compatible d hd last hlast hplace).symm
    · rw [if_neg hplace]
      rcases List.mem_append.1 hd with hd | hd
      · exact ih h.of_append hd
      · exact absurd (congrArg Demand.place (List.mem_singleton.1 hd)) hplace

/-- A directory stays as it is. -/
theorem CanSettle.get?_directory (h : t.CanSettle ds) {mode : Nat}
    (hplace : t.get? place = some (.directory mode)) :
    (t.settle ds).get? place = some (.directory mode) := by
  induction ds using List.reverseRecOn with
  | nil => exact hplace
  | append_singleton ds last ih =>
    have hlast : last ∈ ds ++ [last] := List.mem_append_right ds (List.mem_singleton_self last)
    rw [settle_concat, get?_fulfil, ih h.of_append]
    split
    · rename_i heq
      rw [heq] at hplace
      have hkind : last.wanted.isDirectory = true := (h.allowed last hlast _ hplace).symm
      cases hwanted : last.wanted with
      | directory => rfl
      | file content => simp [hwanted, Wanted.isDirectory] at hkind
      | executable => simp [hwanted, Wanted.isDirectory] at hkind
    · rfl

/-- Where no file is wanted, a file is there afterwards if it was there before, and is the same. -/
theorem CanSettle.get?_file_iff (h : t.CanSettle ds)
    (hplace : ∀ d ∈ ds, d.place = place → d.wanted = .directory) {mode : Nat}
    {content : ByteArray} :
    (t.settle ds).get? place = some (.file mode content) ↔
      t.get? place = some (.file mode content) := by
  by_cases hany : ∃ d ∈ ds, d.place = place
  · -- a directory is wanted there, so there is no file before or after
    obtain ⟨d, hd, rfl⟩ := hany
    have hwanted := hplace d hd rfl
    obtain ⟨e, he, hkind⟩ := h.exists_entry hd
    rw [hwanted] at hkind
    constructor
    · intro hfile
      rw [hfile] at he
      rw [← Option.some.inj he] at hkind
      exact Bool.noConfusion hkind
    · intro hfile
      have hallowed := h.allowed d hd _ hfile
      rw [hwanted] at hallowed
      exact Bool.noConfusion hallowed
  · rw [get?_settle_of_ne fun d hd hplace => hany ⟨d, hd, hplace⟩]

/-- Whether demands can be settled can be checked in parts. -/
theorem canSettle_append :
    t.CanSettle (ds ++ ds') ↔ t.CanSettle ds ∧ (t.settle ds).CanSettle ds' := by
  constructor
  · intro h
    refine ⟨h.of_append, fun d' hd' x hx => ?_,
      (h.of_subset (List.subset_append_right ds ds')).compatible⟩
    have hmem' : d' ∈ ds ++ ds' := List.mem_append_right ds hd'
    by_cases hany : ∃ d ∈ ds, d.place = d'.place
    · obtain ⟨d, hd, hplace⟩ := hany
      obtain ⟨e, he, hkind⟩ := h.of_append.exists_entry hd
      rw [hplace, hx] at he
      rw [Option.some.inj he, hkind]
      exact h.compatible d (List.mem_append_left ds' hd) d' hmem' hplace
    · rw [get?_settle_of_ne fun d hd hplace => hany ⟨d, hd, hplace⟩] at hx
      exact h.allowed d' hmem' x hx
  · rintro ⟨h, h'⟩
    -- what stands at a place after the first part tells what has been wanted there
    have hkinds : ∀ d ∈ ds, ∀ d' ∈ ds', d.place = d'.place →
        d.wanted.isDirectory = d'.wanted.isDirectory := by
      intro d hd d' hd' hplace
      obtain ⟨e, he, hkind⟩ := h.exists_entry hd
      rw [hplace] at he
      exact hkind.symm.trans (h'.allowed d' hd' e he)
    refine ⟨?_, ?_⟩
    · rw [List.forall_mem_append]
      refine ⟨h.allowed, fun d' hd' x hx => ?_⟩
      by_cases hany : ∃ d ∈ ds, d.place = d'.place
      · obtain ⟨d, hd, hplace⟩ := hany
        rw [← hkinds d hd d' hd' hplace]
        exact h.allowed d hd x (hplace ▸ hx)
      · refine h'.allowed d' hd' x ?_
        rw [get?_settle_of_ne fun d hd hplace => hany ⟨d, hd, hplace⟩, hx]
    · simp only [List.forall_mem_append]
      exact ⟨fun d hd => ⟨h.compatible d hd, hkinds d hd⟩,
        fun d' hd' => ⟨fun d hd hplace => (hkinds d hd d' hd' hplace.symm).symm,
          h'.compatible d' hd'⟩⟩

/-! ## Demands in any order -/

theorem canSettle_perm (h : ds.Perm ds') : t.CanSettle ds ↔ t.CanSettle ds' :=
  ⟨fun hds => hds.of_subset h.symm.subset, fun hds => hds.of_subset h.subset⟩

/-- Demands with contents given by their places go together. -/
theorem CanSettle.agrees (h : t.CanSettle ds) {f : List String → ByteArray}
    (hcontents : ContentsFrom f ds) (hd : d ∈ ds) {d' : Demand} (hd' : d' ∈ ds)
    (hplace : d.place = d'.place) : d.wanted.Agrees d'.wanted := by
  refine ⟨h.compatible d hd d' hd' hplace, fun c c' hc hc' => ?_⟩
  rw [hcontents d hd c hc, hcontents d' hd' c' hc', hplace]

theorem fulfil_comm (t : FileTree) {d d' : Demand}
    (h : d.place = d'.place → d.wanted.Agrees d'.wanted) :
    (t.fulfil d).fulfil d' = (t.fulfil d').fulfil d := by
  refine ext_get? fun place => ?_
  simp only [get?_fulfil]
  by_cases hd : place = d.place <;> by_cases hd' : place = d'.place
  · rw [if_pos hd, if_pos hd, if_pos hd', if_pos hd']
    exact congrArg some ((h (hd.symm.trans hd')).entry_comm _)
  · rw [if_neg hd', if_pos hd, if_pos hd, if_neg hd']
  · rw [if_pos hd', if_neg hd, if_neg hd, if_pos hd']
  · rw [if_neg hd', if_neg hd, if_neg hd, if_neg hd']

/-- The order of the demands does not matter. -/
theorem CanSettle.settle_perm (h : t.CanSettle ds) {f : List String → ByteArray}
    (hcontents : ContentsFrom f ds) (hperm : ds.Perm ds') : t.settle ds = t.settle ds' :=
  hperm.foldl_eq' (fun _ hd _ hd' u => u.fulfil_comm (h.agrees hcontents hd hd')) t

/-- In the end every demand is met. -/
theorem CanSettle.isMetBy (h : t.CanSettle ds) {f : List String → ByteArray}
    (hcontents : ContentsFrom f ds) (hd : d ∈ ds) :
    d.wanted.IsMetBy ((t.settle ds).get? d.place) := by
  induction ds using List.reverseRecOn with
  | nil => exact absurd hd List.not_mem_nil
  | append_singleton ds last ih =>
    have hlast : last ∈ ds ++ [last] := List.mem_append_right ds (List.mem_singleton_self last)
    rw [settle_concat, get?_fulfil]
    rcases List.mem_append.1 hd with hmem | hmem
    · have hmet := ih h.of_append (fun d hd => hcontents d (List.mem_append_left _ hd)) hmem
      split
      · rename_i hplace
        exact (h.agrees hcontents hd hlast hplace).isMetBy_entry hmet
      · exact hmet
    · obtain rfl := List.mem_singleton.1 hmem
      rw [if_pos rfl]
      exact d.wanted.isMetBy_entry _

end FileTree

end TriggerPlan
