import TriggerPlan.Path

/-!
# Components of joined paths

The names on a joined path are those of its two parts (`steps_join`). So a name that is looked at
from a directory, and that is one name and not several, is the last component of the path
(`components_child`).
-/

namespace TriggerPlan.Path

/-! ## Pieces between slashes -/

theorem splitSlashes_ne_nil (cs : List Char) : splitSlashes cs ≠ [] := by
  induction cs with
  | nil => exact List.cons_ne_nil _ _
  | cons c cs ih =>
    unfold splitSlashes
    split
    · exact List.cons_ne_nil _ _
    · split <;> exact List.cons_ne_nil _ _

/-- A slash separates what is before it from what is after it. -/
theorem splitSlashes_append_slash (xs ys : List Char) :
    splitSlashes (xs ++ '/' :: ys) = splitSlashes xs ++ splitSlashes ys := by
  induction xs with
  | nil => rfl
  | cons c cs ih =>
    rw [List.cons_append, splitSlashes, splitSlashes, ih]
    split
    · rfl
    · -- the piece that `c` continues is the first one before the slash
      cases h : splitSlashes cs with
      | nil => exact absurd h (splitSlashes_ne_nil cs)
      | cons piece pieces => rfl

/-- Characters without a slash are one piece. -/
theorem splitSlashes_of_not_mem {cs : List Char} (h : '/' ∉ cs) : splitSlashes cs = [cs] := by
  induction cs with
  | nil => rfl
  | cons c cs ih =>
    rw [List.mem_cons, not_or] at h
    rw [splitSlashes, if_neg (Ne.symm h.1), ih h.2]

/-! ## Names on a path -/

/-- The names between the slashes of a text. -/
def namesOf (cs : List Char) : List String :=
  ((splitSlashes cs).filter (!·.isEmpty)).map String.ofList

theorem steps_eq (p : Path) : p.steps = namesOf p.text.toList := rfl

theorem namesOf_append_slash (xs ys : List Char) :
    namesOf (xs ++ '/' :: ys) = namesOf xs ++ namesOf ys := by
  rw [namesOf, splitSlashes_append_slash, List.filter_append, List.map_append]
  rfl

/-- A text without a slash is one name, unless it is empty. -/
theorem namesOf_of_not_mem {cs : List Char} (h : '/' ∉ cs) (hne : cs ≠ []) :
    namesOf cs = [String.ofList cs] := by
  have hfilter : [cs].filter (!·.isEmpty) = [cs] :=
    List.filter_cons_of_pos (by simpa using hne)
  rw [namesOf, splitSlashes_of_not_mem h, hfilter, List.map_singleton]

/-- A text that starts with something else than a slash has a name. -/
theorem namesOf_cons_ne_nil {c : Char} (hc : c ≠ '/') (cs : List Char) : namesOf (c :: cs) ≠ [] := by
  rw [namesOf, splitSlashes, if_neg hc]
  cases splitSlashes cs <;> simp

/-- A text without names is nothing but slashes. -/
theorem eq_slash_of_namesOf_eq_nil {cs : List Char} (h : namesOf cs = []) : ∀ c ∈ cs, c = '/' := by
  induction cs with
  | nil => exact fun c hc => absurd hc List.not_mem_nil
  | cons c cs ih =>
    have hc : c = '/' := Decidable.byContradiction fun hc => namesOf_cons_ne_nil hc cs h
    rw [hc] at h ⊢
    have hcs : namesOf cs = [] := (namesOf_append_slash [] cs).symm.trans h
    exact List.forall_mem_cons.2 ⟨rfl, ih hcs⟩

/-- So a path without names is empty, or ends in a slash. -/
theorem endsInSlash_of_steps_eq_nil {p : Path} (hp : p.text ≠ "") (h : p.steps = []) :
    p.endsInSlash = true := by
  have hne : p.text.toList ≠ [] := fun h => hp (String.toList_eq_nil_iff.1 h)
  rw [steps_eq] at h
  have hlast : p.text.toList.getLast hne = '/' :=
    eq_slash_of_namesOf_eq_nil h _ (List.getLast_mem hne)
  rw [endsInSlash, List.getLast?_eq_some_getLast hne, hlast]
  rfl

/-- The names on a joined path are those of its parts. -/
theorem steps_join (p : Path) {q : Path} (hq : q.isAbsolute = false) :
    (p.join q).steps = p.steps ++ q.steps := by
  rw [join, hq, if_neg Bool.false_ne_true, steps_eq p, steps_eq q]
  by_cases hempty : p.text = ""
  · have htext : (p.text.isEmpty || p.endsInSlash) = true := by
      rw [hempty]
      rfl
    rw [if_pos htext, steps_eq, hempty, String.empty_append]
    rfl
  by_cases hslash : p.endsInSlash = true
  · have htext : (p.text.isEmpty || p.endsInSlash) = true := by
      rw [hslash, Bool.or_true]
    -- the last slash of `p` separates the two parts
    obtain ⟨xs, hxs⟩ : ∃ xs, p.text.toList = xs ++ ['/'] := by
      simpa [endsInSlash, List.getLast?_eq_some_iff] using hslash
    have hjoined : xs ++ ['/'] ++ q.text.toList = xs ++ '/' :: q.text.toList := by simp
    have hend : namesOf [] = [] := rfl
    rw [if_pos htext, steps_eq, String.toList_append, hxs, hjoined, namesOf_append_slash,
      namesOf_append_slash, hend, List.append_nil]
  · have htext : ¬(p.text.isEmpty || p.endsInSlash) = true := by
      rw [Bool.or_eq_true, String.isEmpty_iff, not_or]
      exact ⟨hempty, hslash⟩
    have hjoined : (p.text ++ "/" ++ q.text).toList = p.text.toList ++ '/' :: q.text.toList := by
      rw [String.toList_append, String.toList_append, List.append_assoc]
      rfl
    rw [if_neg htext, steps_eq, hjoined, namesOf_append_slash]

/-! ## Components -/

/-- What is joined to a path keeps its start. -/
theorem isAbsolute_join {p q : Path} (hp : p.text ≠ "") (hq : q.isAbsolute = false) :
    (p.join q).isAbsolute = p.isAbsolute := by
  have hne : p.text.toList ≠ [] := fun h => hp (String.toList_eq_nil_iff.1 h)
  obtain ⟨c, cs, hcs⟩ := List.exists_cons_of_ne_nil hne
  rw [join, hq, if_neg Bool.false_ne_true]
  split <;> simp [isAbsolute, hcs]

/-- A name under a directory makes a path that is not empty. -/
theorem text_child_ne_empty (p : Path) {name : String} (h : name ≠ "") :
    (p.child name).text ≠ "" := by
  rw [child, join]
  split
  · exact h
  · split <;> simp [h]

/-- A relative path that is not empty has a name. -/
theorem steps_ne_nil {p : Path} (hp : p.text ≠ "") (habs : p.isAbsolute = false) :
    p.steps ≠ [] := by
  have hne : p.text.toList ≠ [] := fun h => hp (String.toList_eq_nil_iff.1 h)
  obtain ⟨c, cs, hcs⟩ := List.exists_cons_of_ne_nil hne
  have hc : c ≠ '/' := by
    rintro rfl
    simp [isAbsolute, hcs] at habs
  rw [steps_eq, hcs]
  exact namesOf_cons_ne_nil hc cs

/-- What is joined to a path adds the components that its names stand for. -/
theorem components_join {p q : Path} (hp : p.text ≠ "") (hq : q.isAbsolute = false) :
    (p.join q).components = p.components ++ q.steps.filterMap Component.ofStep? := by
  rw [components, components, steps_join p hq, isAbsolute_join hp hq, List.filterMap_append]
  cases habs : p.isAbsolute with
  | true => rfl
  | false =>
    -- the path starts as the directory does
    obtain ⟨s, ss, hss⟩ := List.exists_cons_of_ne_nil (steps_ne_nil hp habs)
    rw [hss, List.cons_append, List.head?_cons, List.head?_cons, if_neg Bool.false_ne_true,
      if_neg Bool.false_ne_true]
    split <;> rfl

/-- A single name, looked at from a directory, is the last component of the path. -/
theorem components_child {p : Path} (hp : p.text ≠ "") {name : String} (hslash : '/' ∉ name.toList)
    (hne : name ≠ "") (hdot : name ≠ ".") (hdots : name ≠ "..") :
    (p.child name).components = p.components ++ [.name name] := by
  have hnonempty : name.toList ≠ [] := fun h => hne (String.toList_eq_nil_iff.1 h)
  have hrelative : (Path.mk name).isAbsolute = false := by
    obtain ⟨c, cs, hcs⟩ := List.exists_cons_of_ne_nil hnonempty
    rw [hcs, List.mem_cons, not_or] at hslash
    simpa [isAbsolute, hcs] using Ne.symm hslash.1
  have hname : (Path.mk name).steps = [name] := by
    rw [steps_eq, namesOf_of_not_mem hslash hnonempty, String.ofList_toList]
  have hcomponent : [name].filterMap Component.ofStep? = [.name name] := by
    rw [List.filterMap_cons, Component.ofStep?, if_neg hdot, if_neg hdots]
    rfl
  rw [child, components_join hp hrelative, hname, hcomponent]

end TriggerPlan.Path
