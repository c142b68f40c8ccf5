import Mathlib.Data.Finset.Card
import Mathlib.Data.List.Induction
import Mathlib.Data.List.Nodup
import Mathlib.Data.List.Perm.Basic
import TriggerPlan.SortedMap

/-!
# Sorted maps and lists of entries

What a sorted map holds in terms of the list of entries it was made from. The last entry for a key
counts (`get?_ofList_eq_some_iff_isLastValue`). If the keys of the list are all different, the map
has exactly these entries (`toList_ofList_perm`), whatever their order (`ofList_eq_of_perm`); if the
list is sorted, it is the list of the map (`toList_ofList_of_sorted`).
-/

namespace TriggerPlan

/-- Among elements with different keys, the search for the key of an element ends at this
element. -/
theorem find?_key_eq_some {β κ : Type} [DecidableEq κ] {key : β → κ} {as : List β}
    (h : (as.map key).Nodup) {a : β} (ha : a ∈ as) :
    (as.find? fun b => key b = key a) = some a := by
  cases hb : as.find? fun b => key b = key a with
  | none =>
    have hnone := List.find?_eq_none.1 hb a ha
    simp at hnone
  | some b =>
    have hkey : key b = key a := by simpa using List.find?_some hb
    rw [List.inj_on_of_nodup_map h (List.mem_of_find?_eq_some hb) ha hkey]

namespace SortedMap

variable {κ α : Type}

/-! ## Lists of entries -/

/-- A list of entries finds exactly the keys in it. -/
theorem isSome_find?_iff [DecidableEq κ] {k : κ} {es : List (κ × α)} :
    (find? k es).isSome = true ↔ k ∈ es.map (·.1) := by
  induction es with
  | nil => simp [find?]
  | cons e es ih =>
    rw [List.map_cons, List.mem_cons, ← ih]
    by_cases h : k = e.1 <;> simp [find?, h]

/-- The last entry for the key has the value. -/
def IsLastValue (es : List (κ × α)) (k : κ) (v : α) : Prop :=
  ∃ before after, es = before ++ (k, v) :: after ∧ k ∉ after.map (·.1)

/-- The entry at the end is the last one for its key, and for no other key. -/
theorem isLastValue_concat [DecidableEq κ] {es : List (κ × α)} {e : κ × α} {k : κ} {v : α} :
    IsLastValue (es ++ [e]) k v ↔ if k = e.1 then e.2 = v else IsLastValue es k v := by
  constructor
  · rintro ⟨before, after, heq, hafter⟩
    rcases List.eq_nil_or_concat after with rfl | ⟨after, last, rfl⟩
    · obtain ⟨-, hlast⟩ := List.append_inj' heq rfl
      obtain rfl := List.singleton_inj.1 hlast
      rw [if_pos rfl]
    · rw [List.concat_eq_append, ← List.cons_append, ← List.append_assoc] at heq
      obtain ⟨rfl, hlast⟩ := List.append_inj' heq rfl
      obtain rfl := List.singleton_inj.1 hlast
      rw [List.concat_eq_append, List.map_append, List.mem_append, not_or] at hafter
      rw [if_neg fun hk => hafter.2 (List.mem_singleton.2 hk)]
      exact ⟨before, after, rfl, hafter.1⟩
  · intro h
    split at h
    · rename_i hk
      exact ⟨es, [], by rw [hk, ← h], List.not_mem_nil⟩
    · rename_i hk
      obtain ⟨before, after, rfl, hafter⟩ := h
      refine ⟨before, after ++ [e], by simp, ?_⟩
      rw [List.map_append, List.mem_append, not_or]
      exact ⟨hafter, fun hmem => hk (List.mem_singleton.1 hmem)⟩

/-- Sorted lists with the same entries are equal. -/
theorem eq_of_perm_of_sorted [LT κ] [Std.Asymm (α := κ) (· < ·)] {es fs : List (κ × α)}
    (h : es.Perm fs) (hes : es.Pairwise fun a b => a.1 < b.1)
    (hfs : fs.Pairwise fun a b => a.1 < b.1) : es = fs :=
  h.eq_of_pairwise (fun _ _ _ _ hab hba => absurd hba (Std.Asymm.asymm _ _ hab)) hes hfs

/-- An entry with a new key is added to the entries. -/
theorem insertEntry_perm [LT κ] [DecidableEq κ] [DecidableLT κ] {k : κ} {v : α}
    {es : List (κ × α)} (hk : k ∉ es.map (·.1)) : (insertEntry k v es).Perm ((k, v) :: es) := by
  induction es with
  | nil => exact List.Perm.refl _
  | cons e es ih =>
    rw [List.map_cons, List.mem_cons, not_or] at hk
    unfold insertEntry
    split
    · exact List.Perm.refl _
    · rw [if_neg hk.1]
      exact ((ih hk.2).cons e).trans (List.Perm.swap _ _ _)

/-! ## Keys of a map -/

/-- A map contains exactly its keys. -/
theorem contains_iff_mem_keys [LT κ] [DecidableEq κ] {m : SortedMap κ α} {k : κ} :
    m.contains k = true ↔ k ∈ m.keys :=
  isSome_find?_iff

variable [LT κ] [DecidableEq κ] [DecidableLT κ] [Trans (α := κ) (· < ·) (· < ·) (· < ·)]
  [Std.Trichotomous (α := κ) (· < ·)]

/-- An insertion adds its key and keeps the others. -/
theorem contains_insert (m : SortedMap κ α) (k k' : κ) (v : α) :
    (m.insert k v).contains k' = true ↔ k' = k ∨ m.contains k' = true := by
  rw [contains, contains, get?_insert]
  by_cases h : k' = k <;> simp [h]

/-- Insertions add their keys and keep the others. -/
theorem contains_foldl_insert (es : List (κ × α)) (m : SortedMap κ α) (k : κ) :
    (es.foldl (fun m e => m.insert e.1 e.2) m).contains k = true ↔
      k ∈ es.map (·.1) ∨ m.contains k = true := by
  induction es generalizing m with
  | nil => simp
  | cons e es ih =>
    rw [List.foldl_cons, ih, contains_insert, List.map_cons, List.mem_cons, or_left_comm, or_assoc]

/-- A map made from entries contains their keys. -/
theorem contains_ofList (es : List (κ × α)) (k : κ) :
    (ofList es).contains k = true ↔ k ∈ es.map (·.1) :=
  (contains_foldl_insert es empty k).trans (or_iff_left Bool.false_ne_true)

/-! ## Insertions in a row -/

/-- The entry at the end is inserted last. -/
theorem ofList_concat (es : List (κ × α)) (e : κ × α) :
    ofList (es ++ [e]) = (ofList es).insert e.1 e.2 :=
  List.foldl_concat ..

/-- A key that no entry has is not found. -/
theorem get?_ofList_eq_none_iff {es : List (κ × α)} {k : κ} :
    (ofList es).get? k = none ↔ k ∉ es.map (·.1) := by
  rw [← contains_ofList, contains, Option.not_isSome_iff_eq_none]

/-- A key is found with the value of the last entry that has it. -/
theorem get?_ofList_eq_some_iff_isLastValue {es : List (κ × α)} {k : κ} {v : α} :
    (ofList es).get? k = some v ↔ IsLastValue es k v := by
  induction es using List.reverseRecOn with
  | nil => simp [ofList, IsLastValue]
  | append_singleton es e ih =>
    rw [ofList_concat, get?_insert, isLastValue_concat]
    split
    · exact Option.some_inj
    · exact ih

/-- The keys are those of the entries. -/
theorem mem_keys_ofList {es : List (κ × α)} {k : κ} : k ∈ (ofList es).keys ↔ k ∈ es.map (·.1) := by
  rw [← contains_iff_mem_keys, contains_ofList]

/-! ## Entries of a map -/

/-- Entries with new and different keys are added to the entries, one after the other. -/
theorem toList_foldl_insert_perm (es : List (κ × α)) (m : SortedMap κ α)
    (hes : (es.map (·.1)).Nodup) (hm : ∀ e ∈ es, e.1 ∉ m.keys) :
    (es.foldl (fun m e => m.insert e.1 e.2) m).toList.Perm (es ++ m.toList) := by
  induction es generalizing m with
  | nil => exact List.Perm.refl _
  | cons e es ih =>
    rw [List.map_cons, List.nodup_cons] at hes
    rw [List.forall_mem_cons] at hm
    -- the keys that are still to come are new for the larger map too
    have hrest : ∀ e' ∈ es, e'.1 ∉ (m.insert e.1 e.2).keys := by
      intro e' he'
      rw [← contains_iff_mem_keys, contains_insert, contains_iff_mem_keys, not_or]
      exact ⟨fun h => hes.1 (h ▸ List.mem_map_of_mem he'), hm.2 e' he'⟩
    have hins : (m.insert e.1 e.2).toList.Perm (e :: m.toList) := insertEntry_perm hm.1
    rw [List.foldl_cons]
    exact (ih _ hes.2 hrest).trans ((hins.append_left es).trans List.perm_middle)

/-- A map made from entries with different keys has exactly these entries. -/
theorem toList_ofList_perm {es : List (κ × α)} (hes : (es.map (·.1)).Nodup) :
    (ofList es).toList.Perm es := by
  have h := toList_foldl_insert_perm es empty hes (fun e _ => List.not_mem_nil)
  rwa [show (empty : SortedMap κ α).toList = [] from rfl, List.append_nil] at h

/-- Its values are those of the entries. -/
theorem values_ofList_perm {es : List (κ × α)} (hes : (es.map (·.1)).Nodup) :
    (ofList es).values.Perm (es.map (·.2)) :=
  (toList_ofList_perm hes).map _

variable [Std.Asymm (α := κ) (· < ·)]

/-- Look-up in it finds exactly the entries. -/
theorem get?_ofList_eq_some_iff {es : List (κ × α)} (hes : (es.map (·.1)).Nodup) {k : κ} {v : α} :
    (ofList es).get? k = some v ↔ (k, v) ∈ es := by
  rw [← mem_toList_iff, (toList_ofList_perm hes).mem_iff]

/-- Look-up in a map with an entry for each element of a list finds the element with this key. -/
theorem get?_ofList_map {β : Type} {as : List β} {key : β → κ} {f : β → α}
    (has : (as.map key).Nodup) (k : κ) :
    (ofList (as.map fun a => (key a, f a))).get? k = (as.find? fun a => key a = k).map f := by
  have hes : ((as.map fun a => (key a, f a)).map (·.1)).Nodup := by
    rw [List.map_map]
    exact has
  refine Option.ext fun v => ?_
  rw [get?_ofList_eq_some_iff hes, List.mem_map, Option.map_eq_some_iff]
  constructor
  · rintro ⟨a, ha, heq⟩
    obtain ⟨rfl, rfl⟩ := Prod.mk.inj heq
    exact ⟨a, find?_key_eq_some has ha, rfl⟩
  · rintro ⟨a, ha, rfl⟩
    have hkey : key a = k := by simpa using List.find?_some ha
    exact ⟨a, List.mem_of_find?_eq_some ha, by rw [hkey]⟩

/-- The order in which entries with different keys are listed does not matter. -/
theorem ofList_eq_of_perm {es fs : List (κ × α)} (h : es.Perm fs) (hes : (es.map (·.1)).Nodup) :
    ofList es = ofList fs := by
  have hfs : (fs.map (·.1)).Nodup := (h.map _).nodup_iff.1 hes
  refine ext_get? fun k => Option.ext fun v => ?_
  rw [get?_ofList_eq_some_iff hes, get?_ofList_eq_some_iff hfs, h.mem_iff]

omit [DecidableEq κ] [DecidableLT κ] [Trans (α := κ) (· < ·) (· < ·) (· < ·)]
  [Std.Trichotomous (α := κ) (· < ·)] in
/-- The keys of sorted entries are different. -/
theorem nodup_keys_of_sorted {es : List (κ × α)} (hes : es.Pairwise fun a b => a.1 < b.1) :
    (es.map (·.1)).Nodup := by
  rw [List.Nodup, List.pairwise_map]
  refine hes.imp fun {a b} hab heq => ?_
  rw [heq] at hab
  exact Std.Irrefl.irrefl _ hab

omit [DecidableEq κ] [DecidableLT κ] [Trans (α := κ) (· < ·) (· < ·) (· < ·)]
  [Std.Trichotomous (α := κ) (· < ·)] in
/-- No key of a map occurs twice. -/
theorem nodup_keys (m : SortedMap κ α) : m.keys.Nodup :=
  nodup_keys_of_sorted m.sorted

omit [DecidableLT κ] [Trans (α := κ) (· < ·) (· < ·) (· < ·)]
  [Std.Trichotomous (α := κ) (· < ·)] in
/-- The entries are the keys with what look-up gives for them. -/
theorem toList_eq_map_keys (m : SortedMap κ α) :
    m.toList.map (fun e => (e.1, some e.2)) = m.keys.map fun k => (k, m.get? k) := by
  rw [keys, List.map_map]
  refine List.map_congr_left fun e he => ?_
  have hget : m.get? e.1 = some e.2 := mem_toList_iff.1 he
  exact Prod.ext rfl hget.symm

/-- There are as many entries as there are different keys. -/
theorem size_ofList (es : List (κ × α)) : (ofList es).size = (es.map (·.1)).toFinset.card := by
  have hkeys : (ofList es).keys.toFinset = (es.map (·.1)).toFinset := by
    ext k
    rw [List.mem_toFinset, List.mem_toFinset, mem_keys_ofList]
  rw [← hkeys, List.toFinset_card_of_nodup (nodup_keys _), keys, List.length_map, size]

/-- A sorted list of entries is the list of the map made from it. -/
theorem toList_ofList_of_sorted {es : List (κ × α)} (hes : es.Pairwise fun a b => a.1 < b.1) :
    (ofList es).toList = es :=
  eq_of_perm_of_sorted (toList_ofList_perm (nodup_keys_of_sorted hes)) (ofList es).sorted hes

/-- A map is made from its own entries. -/
@[simp] theorem ofList_toList (m : SortedMap κ α) : ofList m.toList = m := by
  have h : (ofList m.toList).toList = m.toList := toList_ofList_of_sorted m.sorted
  refine ext_get? fun k => ?_
  rw [get?, get?, h]

/-- A map whose values carry their keys is made from its values. -/
theorem ofList_values {key : α → κ} {m : SortedMap κ α}
    (hkey : ∀ k a, m.get? k = some a → key a = k) :
    ofList (m.values.map fun a => (key a, a)) = m := by
  have hentries : (m.values.map fun a => (key a, a)) = m.toList := by
    rw [values, List.map_map]
    refine (List.map_congr_left fun e he => ?_).trans (List.map_id m.toList)
    have hk : key e.2 = e.1 := hkey e.1 e.2 (mem_toList_iff.1 he)
    exact Prod.ext hk rfl
  rw [hentries, ofList_toList]

omit [DecidableLT κ] [Trans (α := κ) (· < ·) (· < ·) (· < ·)]
  [Std.Trichotomous (α := κ) (· < ·)] in
/-- Values that carry their keys carry different ones. -/
theorem nodup_map_values {key : α → κ} {m : SortedMap κ α}
    (hkey : ∀ k a, m.get? k = some a → key a = k) : (m.values.map key).Nodup := by
  have hkeys : m.values.map key = m.toList.map (·.1) := by
    rw [values, List.map_map]
    exact List.map_congr_left fun e he => hkey e.1 e.2 (mem_toList_iff.1 he)
  rw [hkeys]
  exact nodup_keys_of_sorted m.sorted

/-- What holds of the empty map, and is kept when an entry of `m` is inserted that is not there yet,
holds of `m`. -/
theorem induction_insert {P : SortedMap κ α → Prop} (m : SortedMap κ α) (hempty : P empty)
    (hinsert : ∀ m' k a, m.get? k = some a → m'.get? k = none → P m' → P (m'.insert k a)) :
    P m := by
  have hmem : ∀ e ∈ m.toList, m.get? e.1 = some e.2 := fun e he => mem_toList_iff.1 he
  have hkeys : (m.toList.map (·.1)).Nodup := nodup_keys_of_sorted m.sorted
  -- the entries are inserted in the order of the list, from the front
  rw [← ofList_toList m]
  generalize m.toList = es at hmem hkeys
  induction es using List.reverseRecOn with
  | nil => exact hempty
  | append_singleton es e ih =>
    rw [List.map_append, List.nodup_append] at hkeys
    have hfresh : e.1 ∉ es.map (·.1) := fun he =>
      hkeys.2.2 e.1 he e.1 (List.mem_map_of_mem List.mem_cons_self) rfl
    have hnone : (ofList es).get? e.1 = none := by
      rw [← contains_ofList, contains] at hfresh
      exact Option.not_isSome_iff_eq_none.1 hfresh
    have hsome : m.get? e.1 = some e.2 := hmem e (List.mem_append_right es List.mem_cons_self)
    have hes : P (ofList es) := ih (fun e he => hmem e (List.mem_append_left _ he)) hkeys.1
    rw [ofList_concat]
    exact hinsert (ofList es) e.1 e.2 hsome hnone hes

/-- A map stays the same if a key gets the value that it has. -/
theorem insert_eq_self {m : SortedMap κ α} {k : κ} {v : α} (h : m.get? k = some v) :
    m.insert k v = m := by
  refine ext_get? fun k' => ?_
  rw [get?_insert]
  split
  · rename_i hk
    rw [hk, h]
  · rfl

/-- Of two insertions for one key the second counts. -/
theorem insert_insert (m : SortedMap κ α) (k : κ) (v w : α) :
    (m.insert k v).insert k w = m.insert k w := by
  refine ext_get? fun k' => ?_
  by_cases h : k' = k <;> simp [h]

end SortedMap

end TriggerPlan
