import Mathlib.Data.List.Induction
import TriggerPlan.Proofs.Model.Layers

/-!
# Attributes along a run

What the attributes of a trigger are after a run, in terms of the operations that have succeeded:
on each level the last operation that touches an attribute counts, and of the levels the innermost
one that has a value (`Model.attributes_of_attemptAll`). So an operation that touches other
attributes or other levels makes no difference, and one that removes a value makes room for that of
the next level.
-/

namespace TriggerPlan

/-! ## Attributes -/

/-- An attribute of layers, with what a change leaves for it if the change touches it. -/
structure Attribute (α : Type) where
  get : Layer → Option α
  left? : LayerChange → Option (Option α)
  get_changed : ∀ (l : Layer) (change : LayerChange), change.IsAcceptable →
    get (l.changed change) = (left? change).getD (get l)

namespace Attribute

/-- A text attribute. -/
def text (k : TextKey) : Attribute String where
  get l := l.text k
  left? change := change.text? k
  get_changed l change _ := l.text_changed change k

/-- The size of the version history, as a number. -/
def size : Attribute Nat where
  get l := l.versionHistorySize.map UInt32.toNat
  left? := LayerChange.size?
  get_changed l _ h := l.versionHistorySize_changed h

end Attribute

section

variable {α : Type} (a : Attribute α)

/-- What an operation leaves for an attribute of a level, if it touches the attribute there. -/
def Operation.left? (op : Operation) (level : Level) : Option (Option α) :=
  (op.changeAt? level).bind a.left?

/-- What the last operation that touches an attribute of a level has left for it, or what the level
starts from if there is none. -/
def Level.last? (level : Level) (done : List Operation) : Option α :=
  ((done.filterMap (·.left? a level)).getLast?).getD (a.get level.initial)

/-- The levels whose layers a trigger sees, from its own outwards. -/
def Level.seenBy (name hostname : String) : List Level :=
  [.trigger name hostname, .repository name, .global]

/-- The first value that is left on some levels. -/
def Level.first? (levels : List Level) (done : List Operation) : Option α :=
  levels.findSome? (·.last? a done)

end

/-! ## The last value -/

/-- The last value that a list has, when one more element comes in. -/
theorem getLast?_filterMap_append {α β : Type} (f : α → Option β) (as : List α) (a : α) (b : β) :
    ((as ++ [a]).filterMap f).getLast?.getD b = (f a).getD ((as.filterMap f).getLast?.getD b) := by
  rw [List.filterMap_append]
  cases h : f a with
  | none => simp [h]
  | some c => simp [h]

variable {α : Type} {a : Attribute α} {op : Operation} {level : Level} {done : List Operation}

/-- A layer that goes through some changes has what the last change that touches the attribute
leaves for it. -/
theorem Layer.get_foldl_changed {changes : List LayerChange} (l : Layer)
    (h : ∀ change ∈ changes, change.IsAcceptable) :
    a.get (changes.foldl changed l) = (changes.filterMap a.left?).getLast?.getD (a.get l) := by
  -- the last change is the outermost one
  induction changes using List.reverseRecOn with
  | nil => rfl
  | append_singleton changes change ih =>
    have hbefore := ih fun c hc => h c (List.mem_append_left _ hc)
    have hlast := a.get_changed (changes.foldl changed l) change
      (h change (List.mem_append_right _ List.mem_cons_self))
    rw [List.foldl_append, List.foldl_cons, List.foldl_nil, hlast, hbefore,
      getLast?_filterMap_append]

namespace Level

/-- The layer of a level has what was left last. -/
theorem get_layerAfter
    (h : ∀ op ∈ done, ∀ change, op.changeAt? level = some change → change.IsAcceptable) :
    a.get (level.layerAfter done) = level.last? a done := by
  have hchanges : ∀ change ∈ done.filterMap (·.changeAt? level), change.IsAcceptable := by
    intro change hchange
    obtain ⟨op, hop, hchange⟩ := List.mem_filterMap.1 hchange
    exact h op hop change hchange
  rw [layerAfter, Layer.get_foldl_changed level.initial hchanges, List.filterMap_filterMap]
  rfl

/-- One more operation counts if it touches the attribute. -/
theorem last?_append : level.last? a (done ++ [op]) = (op.left? a level).getD (level.last? a done) :=
  getLast?_filterMap_append ..

end Level

/-! ## The innermost value -/

/-- Elements with the same values have the same first value. -/
theorem findSome?_congr {α β : Type} {f g : α → Option β} {as : List α}
    (h : ∀ a ∈ as, f a = g a) : as.findSome? f = as.findSome? g := by
  induction as with
  | nil => rfl
  | cons a as ih =>
    rw [List.forall_mem_cons] at h
    rw [List.findSome?_cons, List.findSome?_cons, h.1, ih h.2]

/-- An element without a value does not count. -/
theorem findSome?_filter_ne {α β : Type} [DecidableEq α] (f : α → Option β) {a : α}
    (h : f a = none) (as : List α) : (as.filter (· ≠ a)).findSome? f = as.findSome? f := by
  induction as with
  | nil => rfl
  | cons b as ih =>
    by_cases hb : b = a
    · rw [List.filter_cons_of_neg (by simp [hb]), List.findSome?_cons, hb, h]
      exact ih
    · rw [List.filter_cons_of_pos (by simp [hb]), List.findSome?_cons, List.findSome?_cons, ih]

/-- An operation changes the layer of one level at most. -/
theorem Operation.changeAt?_of_ne {change : LayerChange} {level' : Level}
    (h : op.changeAt? level = some change) (hne : level' ≠ level) : op.changeAt? level' = none := by
  cases op with
  | changeLayer target change' =>
    have htarget : target = level := by
      by_contra hother
      rw [changeAt?, if_neg hother] at h
      cases h
    rw [changeAt?, htarget, if_neg hne.symm]
  | _ => rfl

namespace Level

variable {levels : List Level}

/-- An operation that does not touch the attribute on any of the levels makes no difference. -/
theorem first?_untouched (h : ∀ level ∈ levels, op.left? a level = none) :
    first? a levels (done ++ [op]) = first? a levels done := by
  refine findSome?_congr fun level hlevel => ?_
  rw [last?_append, h level hlevel, Option.getD_none]

/-- After an operation that removes the value of a level, the other levels count. -/
theorem first?_removed (h : op.left? a level = some none) :
    first? a levels (done ++ [op]) = first? a (levels.filter (· ≠ level)) done := by
  have hnone : level.last? a (done ++ [op]) = none := by
    rw [last?_append, h, Option.getD_some]
  have hfilter := findSome?_filter_ne (·.last? a (done ++ [op])) hnone levels
  refine hfilter.symm.trans (first?_untouched fun level' hlevel' => ?_)
  -- the operation changes no other level
  have hne : level' ≠ level := by simpa using (List.mem_filter.1 hlevel').2
  obtain ⟨change, hchange, -⟩ := Option.bind_eq_some_iff.1 h
  rw [Operation.left?, Operation.changeAt?_of_ne hchange hne, Option.bind_none]

end Level

/-! ## Views -/

namespace Model

variable {ops : List Operation} {name hostname : String} {v : View}

/-- A level that is there holds what the operations have left. -/
theorem eq_layerAfter {path : String} {l : Layer}
    (hl : (Model.new.attemptAll ops).layerAt? level = some (path, l)) :
    l = level.layerAfter (Model.new.succeeding ops) := by
  cases follows_attemptAll ops level with
  | missing missing never untouched =>
    rw [missing] at hl
    cases hl
  | found found made =>
    rw [found] at hl
    exact (Prod.mk.inj (Option.some.inj hl)).2.symm

/-- The layers of a view hold what the operations have left on the levels that the trigger sees. -/
theorem layers_of_view? (hv : (Model.new.attemptAll ops).view? name hostname = some v) :
    v.layers = (Level.seenBy name hostname).map (·.layerAfter (Model.new.succeeding ops)) := by
  obtain ⟨hr, -, hglobal⟩ := view?_eq_some_iff.1 hv
  have htrigger : (Model.new.attemptAll ops).layerAt? (.trigger name hostname) =
      some (v.trigger.path, v.trigger.settings) := by
    rw [layerAt?, trigger?_of_view? hv, Option.map_some]
  have hrepository : (Model.new.attemptAll ops).layerAt? (.repository name) =
      some (v.repository.path, v.repository.settings) := by
    rw [layerAt?, hr, Option.map_some]
  have hglobal : (Model.new.attemptAll ops).layerAt? .global = some (rootPath, v.global) := by
    rw [layerAt?, hglobal]
  rw [View.layers, eq_layerAfter htrigger, eq_layerAfter hrepository, eq_layerAfter hglobal]
  rfl

/-- An attribute of a view is the innermost one that the operations have left. -/
theorem firstDefined_of_view? (hv : (Model.new.attemptAll ops).view? name hostname = some v) :
    v.firstDefined a.get =
      Level.first? a (Level.seenBy name hostname) (Model.new.succeeding ops) := by
  rw [View.firstDefined, Layer.firstDefined, layers_of_view? hv, List.findSome?_map]
  refine findSome?_congr fun level _ => Level.get_layerAfter ?_
  exact fun op hop change hchange => isAcceptable_of_mem_succeeding ops hop hchange

/-- A trigger is still there after an operation. -/
theorem exists_view?_attempt (hv : (Model.new.attemptAll ops).view? name hostname = some v)
    (op : Operation) : ∃ v', ((Model.new.attemptAll ops).attempt op).view? name hostname = some v' := by
  have hconsistent : (Model.new.attemptAll ops).IsConsistent := isConsistent_new.attemptAll ops
  exact exists_view?_iff.2 (hconsistent.isSome_trigger?_attempt (exists_view?_iff.1 ⟨v, hv⟩) op)

/-- An attribute of a view after an operation that succeeds. -/
theorem firstDefined_of_view?_of_ok {m' : Model} {v' : View}
    (hok : op.perform (Model.new.attemptAll ops) = .ok () m')
    (hv' : ((Model.new.attemptAll ops).attempt op).view? name hostname = some v') :
    v'.firstDefined a.get =
      Level.first? a (Level.seenBy name hostname) (Model.new.succeeding ops ++ [op]) := by
  rw [← attemptAll_append] at hv'
  rw [firstDefined_of_view? hv', succeeding_append_of_ok hok]

/-- An operation that does not touch an attribute on the levels that a trigger sees does not change
the attribute of the trigger, whether it succeeds or fails. -/
theorem firstDefined_untouched {v' : View}
    (hv : (Model.new.attemptAll ops).view? name hostname = some v)
    (hv' : ((Model.new.attemptAll ops).attempt op).view? name hostname = some v')
    (h : ∀ level ∈ Level.seenBy name hostname, op.left? a level = none) :
    v'.firstDefined a.get = v.firstDefined a.get := by
  have hconsistent : (Model.new.attemptAll ops).IsConsistent := isConsistent_new.attemptAll ops
  rcases hconsistent.perform_ends op with ⟨m', hok, -⟩ | ⟨e, herror, -⟩
  · rw [firstDefined_of_view?_of_ok hok hv', Level.first?_untouched h, firstDefined_of_view? hv]
  · rw [attempt_of_error herror, hv] at hv'
    rw [Option.some.inj hv']

end Model

/-- The size of a view as a number. -/
theorem View.toNat_versionHistorySize (v : View) :
    v.versionHistorySize.toNat = (v.firstDefined Attribute.size.get).getD 2 := by
  have hsize : v.firstDefined Attribute.size.get =
      (v.firstDefined (·.versionHistorySize)).map UInt32.toNat :=
    List.map_findSome?.symm
  rw [versionHistorySize, hsize]
  cases v.firstDefined (·.versionHistorySize) <;> rfl

namespace Model

/-- The attributes of a trigger after a run. Each is the innermost of the values that the last
operations have left on the levels of the trigger, with the hostname and 2 where there is none. One
more operation does not change the attributes that it does not touch on these levels; and if it
removes the value of one level, the other levels count. -/
theorem attributes_of_attemptAll (ops : List Operation) {name hostname : String} {v : View}
    (hv : (Model.new.attemptAll ops).view? name hostname = some v) :
    (∀ k, v.text k =
      Level.first? (.text k) (Level.seenBy name hostname) (Model.new.succeeding ops)) ∧
    v.stagingArtifactPackaging =
      (Level.first? (.text .stagingArtifactPackaging) (Level.seenBy name hostname)
        (Model.new.succeeding ops)).getD hostname ∧
    v.versionHistorySize.toNat =
      (Level.first? .size (Level.seenBy name hostname) (Model.new.succeeding ops)).getD 2 ∧
    ∀ op, ∃ v', ((Model.new.attemptAll ops).attempt op).view? name hostname = some v' ∧
      (∀ k, (∀ level ∈ Level.seenBy name hostname, op.left? (.text k) level = none) →
        v'.text k = v.text k) ∧
      ((∀ level ∈ Level.seenBy name hostname, op.left? .size level = none) →
        v'.versionHistorySize = v.versionHistorySize) ∧
      ∀ m', (Model.new.attemptAll ops).apply op = .ok m' → ∀ level,
        (∀ k, op.left? (.text k) level = some none →
          v'.text k = Level.first? (.text k) ((Level.seenBy name hostname).filter (· ≠ level))
            (Model.new.succeeding ops)) ∧
        (op.left? .size level = some none →
          v'.versionHistorySize.toNat =
            (Level.first? .size ((Level.seenBy name hostname).filter (· ≠ level))
              (Model.new.succeeding ops)).getD 2) := by
  have hconsistent : (Model.new.attemptAll ops).IsConsistent := isConsistent_new.attemptAll ops
  have htext (k : TextKey) : v.text k =
      Level.first? (.text k) (Level.seenBy name hostname) (Model.new.succeeding ops) :=
    firstDefined_of_view? (a := .text k) hv
  have hhost : v.trigger.hostname = hostname :=
    (hconsistent.trigger (trigger?_of_view? hv)).hostname
  refine ⟨htext, ?_, ?_, ?_⟩
  · rw [View.stagingArtifactPackaging, htext, hhost]
  · rw [View.toNat_versionHistorySize, firstDefined_of_view? hv]
  · intro op
    obtain ⟨v', hv'⟩ := exists_view?_attempt hv op
    refine ⟨v', hv', ?_, ?_, ?_⟩
    · intro k huntouched
      exact firstDefined_untouched (a := .text k) hv hv' huntouched
    · intro huntouched
      have hsize : v'.versionHistorySize.toNat = v.versionHistorySize.toNat := by
        rw [View.toNat_versionHistorySize, View.toNat_versionHistorySize,
          firstDefined_untouched hv hv' huntouched]
      exact UInt32.toNat_inj.1 hsize
    · intro m' hm' level
      have hok : op.perform (Model.new.attemptAll ops) = .ok () m' := apply_eq_ok_iff.1 hm'
      constructor
      · intro k hremoved
        rw [← Level.first?_removed hremoved]
        exact firstDefined_of_view?_of_ok (a := .text k) hok hv'
      · intro hremoved
        rw [← Level.first?_removed hremoved, View.toNat_versionHistorySize,
          firstDefined_of_view?_of_ok hok hv']

/-- After the sample run the host has its own group, the size of its repository, and no type of the
staged artifact, since the global level was reset to nothing. Once its group is removed, it has that
of its repository. -/
theorem attributes_of_sampleRun :
    ∃ v, (Model.new.attemptAll sampleRun).view? "north" "alpha" = some v ∧
      v.text .group = some "inner" ∧ v.text .stagingArtifactType = none ∧
      v.stagingArtifactPackaging = "alpha" ∧ v.versionHistorySize.toNat = 7 ∧
      ∃ v', ((Model.new.attemptAll sampleRun).attempt
          (.changeLayer (.trigger "north" "alpha") (.clear (.text .group)))).view? "north" "alpha" =
            some v' ∧
        v'.text .group = some "outer" ∧ v'.versionHistorySize = v.versionHistorySize := by
  have hsome : ∃ v, (Model.new.attemptAll sampleRun).view? "north" "alpha" = some v :=
    exists_view?_iff.2 (by decide)
  obtain ⟨v, hv⟩ := hsome
  obtain ⟨htext, hpackaging, hsize, hnext⟩ := attributes_of_attemptAll sampleRun hv
  obtain ⟨v', hv', -, hkept, hremoved⟩ :=
    hnext (.changeLayer (.trigger "north" "alpha") (.clear (.text .group)))
  refine ⟨v, hv, ?_, ?_, ?_, ?_, v', hv', ?_, ?_⟩
  · exact (htext .group).trans (by decide)
  · exact (htext .stagingArtifactType).trans (by decide)
  · exact hpackaging.trans (by decide)
  · exact hsize.trans (by decide)
  · exact ((hremoved _ rfl (.trigger "north" "alpha")).1 .group rfl).trans (by decide)
  · exact hkept (by decide)

end Model

end TriggerPlan
