/-!
# Finite maps with sorted keys

A finite map is kept as the list of its entries in strictly increasing order of their keys. So each
key occurs once, the list is the only one for its map, and two maps that answer every look-up alike
are equal.
-/

namespace TriggerPlan

/-! ## Orders of keys -/

-- texts and lists of texts are compared by the orders of the core library, whatever is imported

instance (priority := high) textTrans : Trans (α := String) (· < ·) (· < ·) (· < ·) :=
  ⟨String.lt_trans⟩

instance (priority := high) textTrichotomous : Std.Trichotomous (α := String) (· < ·) :=
  ⟨fun _ _ h h' => String.le_antisymm (String.not_lt.1 h') (String.not_lt.1 h)⟩

instance (priority := high) textsTrichotomous : Std.Trichotomous (α := List String) (· < ·) :=
  ⟨fun _ _ h h' => List.le_antisymm (List.not_lt.1 h') (List.not_lt.1 h)⟩

/-! ## Maps -/

/-- A finite map from `κ` to `α`: its entries, in strictly increasing order of their keys. -/
structure SortedMap (κ : Type) (α : Type) [LT κ] where
  toList : List (κ × α)
  sorted : toList.Pairwise fun a b => a.1 < b.1

namespace SortedMap

variable {κ α : Type} [LT κ] [DecidableEq κ]

/-! ## Look-up -/

/-- The map without entries. -/
def empty : SortedMap κ α := ⟨[], List.Pairwise.nil⟩

instance : EmptyCollection (SortedMap κ α) := ⟨empty⟩

instance : Inhabited (SortedMap κ α) := ⟨empty⟩

instance [DecidableEq α] : DecidableEq (SortedMap κ α) := fun a b =>
  decidable_of_iff (a.toList = b.toList) (by cases a; cases b; simp)

/-- The value that a list of entries holds for a key, at its first entry for that key. -/
def find? (k : κ) : List (κ × α) → Option α
  | [] => none
  | e :: es => if k = e.1 then some e.2 else find? k es

/-- The value of a key. -/
def get? (m : SortedMap κ α) (k : κ) : Option α := find? k m.toList

/-- Whether a key has a value. -/
def contains (m : SortedMap κ α) (k : κ) : Bool := (m.get? k).isSome

/-- The keys, in increasing order. -/
def keys (m : SortedMap κ α) : List κ := m.toList.map (·.1)

/-- The values, in the order of their keys. -/
def values (m : SortedMap κ α) : List α := m.toList.map (·.2)

/-- The number of entries. -/
def size (m : SortedMap κ α) : Nat := m.toList.length

/-- Whether there is no entry. -/
def isEmpty (m : SortedMap κ α) : Bool := m.toList.isEmpty

@[simp] theorem get?_empty (k : κ) : (empty : SortedMap κ α).get? k = none := rfl

theorem find?_eq_none_of_forall_lt {k : κ} [Std.Irrefl (α := κ) (· < ·)] :
    {es : List (κ × α)} → (∀ e ∈ es, k < e.1) → find? k es = none
  | [], _ => rfl
  | e :: es, h => by
    have hne : k ≠ e.1 := fun hk => by
      have := h e List.mem_cons_self
      rw [← hk] at this
      exact Std.Irrefl.irrefl k this
    simp only [find?, hne, if_false]
    exact find?_eq_none_of_forall_lt fun e' he' => h e' (List.mem_cons_of_mem _ he')

/-- A key of a sorted list is found with the value beside it. -/
theorem find?_eq_some_iff [Std.Irrefl (α := κ) (· < ·)] {k : κ} {v : α} :
    {es : List (κ × α)} → es.Pairwise (fun a b => a.1 < b.1) →
      (find? k es = some v ↔ (k, v) ∈ es)
  | [], _ => by simp [find?]
  | (k', v') :: es, h => by
    obtain ⟨hlt, hes⟩ := List.pairwise_cons.1 h
    by_cases hk : k = k'
    · subst hk
      simp only [find?, if_true, Option.some.injEq, List.mem_cons, Prod.mk.injEq, true_and]
      refine ⟨fun hv => .inl hv.symm, fun hv => hv.elim Eq.symm fun hm => ?_⟩
      exact absurd (hlt _ hm) (Std.Irrefl.irrefl k)
    · simp only [find?, hk, if_false, List.mem_cons, Prod.mk.injEq, false_and, false_or]
      exact find?_eq_some_iff hes

/-- The entries are exactly the pairs that look-up gives. -/
theorem mem_toList_iff [Std.Irrefl (α := κ) (· < ·)] {m : SortedMap κ α} {k : κ} {v : α} :
    (k, v) ∈ m.toList ↔ m.get? k = some v :=
  (find?_eq_some_iff m.sorted).symm

omit [DecidableEq κ] in
theorem keys_sorted (m : SortedMap κ α) : m.keys.Pairwise (· < ·) := by
  simpa [keys, List.pairwise_map] using m.sorted

/-! ## Insertion -/

variable [DecidableLT κ]

/-- A list of sorted entries with one more entry, put in its place or in place of the entry that has
its key. -/
def insertEntry (k : κ) (v : α) : List (κ × α) → List (κ × α)
  | [] => [(k, v)]
  | e :: es =>
    if k < e.1 then (k, v) :: e :: es
    else if k = e.1 then (k, v) :: es
    else e :: insertEntry k v es

theorem fst_of_mem_insertEntry {k : κ} {v : α} {x : κ × α} :
    {es : List (κ × α)} → x ∈ insertEntry k v es → x.1 = k ∨ x ∈ es
  | [], h => by simp [insertEntry] at h; simp [h]
  | e :: es, h => by
    unfold insertEntry at h
    split at h
    · rcases List.mem_cons.1 h with rfl | h
      · exact .inl rfl
      · exact .inr h
    · split at h
      · rcases List.mem_cons.1 h with rfl | h
        · exact .inl rfl
        · exact .inr (List.mem_cons_of_mem _ h)
      · rcases List.mem_cons.1 h with rfl | h
        · exact .inr List.mem_cons_self
        · exact (fst_of_mem_insertEntry h).imp id (List.mem_cons_of_mem _)

theorem insertEntry_sorted [Trans (α := κ) (· < ·) (· < ·) (· < ·)]
    [Std.Trichotomous (α := κ) (· < ·)] {k : κ} {v : α} :
    {es : List (κ × α)} → es.Pairwise (fun a b => a.1 < b.1) →
      (insertEntry k v es).Pairwise fun a b => a.1 < b.1
  | [], _ => by simp [insertEntry]
  | e :: es, h => by
    obtain ⟨hlt, hes⟩ := List.pairwise_cons.1 h
    unfold insertEntry
    split
    · rename_i hk
      refine List.pairwise_cons.2 ⟨fun x hx => ?_, h⟩
      rcases List.mem_cons.1 hx with rfl | hx
      · exact hk
      · exact Trans.trans (r := (· < ·)) (s := (· < ·)) hk (hlt x hx)
    · split
      · rename_i hk
        exact List.pairwise_cons.2 ⟨fun x hx => hk ▸ hlt x hx, hes⟩
      · rename_i hnlt hne
        refine List.pairwise_cons.2 ⟨fun x hx => ?_, insertEntry_sorted hes⟩
        rcases fst_of_mem_insertEntry hx with hx | hx
        · rw [hx]
          exact Classical.byContradiction fun h' =>
            hne (Std.Trichotomous.trichotomous k e.1 hnlt h')
        · exact hlt x hx

theorem find?_insertEntry {k k' : κ} {v : α} :
    (es : List (κ × α)) →
      find? k' (insertEntry k v es) = if k' = k then some v else find? k' es
  | [] => by simp [insertEntry, find?]
  | e :: es => by
    unfold insertEntry
    split
    · by_cases h : k' = k <;> simp [find?, h]
    · split
      · rename_i h
        subst h
        by_cases h : k' = e.1 <;> simp [find?, h]
      · rename_i hne
        by_cases h : k' = e.1
        · have : e.1 ≠ k := fun h' => hne h'.symm
          simp [find?, h, this]
        · simp [find?, h, find?_insertEntry es]

variable [Trans (α := κ) (· < ·) (· < ·) (· < ·)] [Std.Trichotomous (α := κ) (· < ·)]

/-- The map with the value of one key set. -/
def insert (m : SortedMap κ α) (k : κ) (v : α) : SortedMap κ α :=
  ⟨insertEntry k v m.toList, insertEntry_sorted m.sorted⟩

/-- After an insertion the key has the new value, and every other key what it had. -/
@[simp] theorem get?_insert (m : SortedMap κ α) (k k' : κ) (v : α) :
    (m.insert k v).get? k' = if k' = k then some v else m.get? k' :=
  find?_insertEntry m.toList

/-- The map that a list of entries gives; a later entry replaces an earlier one for its key. -/
def ofList (es : List (κ × α)) : SortedMap κ α :=
  es.foldl (fun m e => m.insert e.1 e.2) empty

/-! ## Equality -/

omit [DecidableLT κ] [Trans (α := κ) (· < ·) (· < ·) (· < ·)] [Std.Trichotomous (α := κ) (· < ·)] in
/-- A sorted list that finds `k` does not start with a key above `k`. -/
theorem not_lt_of_find?_eq_some [Std.Irrefl (α := κ) (· < ·)] [Std.Asymm (α := κ) (· < ·)]
    {k : κ} {v : α} {e : κ × α} {es : List (κ × α)}
    (h : (e :: es).Pairwise fun a b => a.1 < b.1) (hk : find? k (e :: es) = some v) :
    ¬k < e.1 := fun hlt => by
  rcases List.mem_cons.1 ((find?_eq_some_iff h).1 hk) with rfl | hm
  · exact Std.Irrefl.irrefl k hlt
  · exact Std.Asymm.asymm _ _ hlt ((List.pairwise_cons.1 h).1 _ hm)

omit [DecidableLT κ] [Trans (α := κ) (· < ·) (· < ·) (· < ·)] in
/-- Two sorted lists that answer every look-up alike are equal. -/
theorem eq_of_find?_eq [Std.Irrefl (α := κ) (· < ·)] [Std.Asymm (α := κ) (· < ·)] :
    {es fs : List (κ × α)} → es.Pairwise (fun a b => a.1 < b.1) →
      fs.Pairwise (fun a b => a.1 < b.1) → (∀ k, find? k es = find? k fs) → es = fs
  | [], [], _, _, _ => rfl
  | [], f :: fs, _, _, h => by simpa [find?] using h f.1
  | e :: es, [], _, _, h => by simpa [find?] using h e.1
  | (ke, ve) :: es, (kf, vf) :: fs, he, hf, h => by
    obtain ⟨hlte, hes⟩ := List.pairwise_cons.1 he
    obtain ⟨hltf, hfs⟩ := List.pairwise_cons.1 hf
    have hkey : ke = kf := Std.Trichotomous.trichotomous (r := (· < ·)) ke kf
      (not_lt_of_find?_eq_some (v := ve) hf (by rw [← h ke]; simp [find?]))
      (not_lt_of_find?_eq_some (v := vf) he (by rw [h kf]; simp [find?]))
    subst hkey
    have hval : ve = vf := by simpa [find?] using h ke
    subst hval
    congr 1
    refine eq_of_find?_eq hes hfs fun k => ?_
    by_cases hk : k = ke
    · subst hk
      rw [find?_eq_none_of_forall_lt hlte, find?_eq_none_of_forall_lt hltf]
    · simpa [find?, hk] using h k

omit [DecidableLT κ] [Trans (α := κ) (· < ·) (· < ·) (· < ·)] in
/-- Two maps that answer every look-up alike are equal. -/
theorem ext_get? [Std.Irrefl (α := κ) (· < ·)] [Std.Asymm (α := κ) (· < ·)] {m n : SortedMap κ α}
    (h : ∀ k, m.get? k = n.get? k) : m = n := by
  obtain ⟨es, hes⟩ := m
  obtain ⟨fs, hfs⟩ := n
  have : es = fs := eq_of_find?_eq hes hfs h
  subst this
  rfl

end SortedMap

end TriggerPlan
