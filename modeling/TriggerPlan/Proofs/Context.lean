import TriggerPlan.Context
import TriggerPlan.Proofs.Json.Text
import TriggerPlan.Proofs.SortedMap
import TriggerPlan.Proofs.Text.ByteOrder

/-!
# Contexts built by insertions

A context tells the last value that was inserted for each key, and nothing else about the
insertions (`Context.records_iff`): one for a key that is there already changes the value of the key
and neither moves nor repeats it, and a key without a value is there all the same. So contexts are
equal, and are written as the same JSON text, exactly if they have the same values for the same keys
(`Context.canonical`).
-/

namespace TriggerPlan.Context

/-- What a context answers, whichever way it is asked, after some insertions, the last of which
stands at the end of the list. -/
structure Records (c : Context) (insertions : List (String × Option String)) : Prop where
  /-- A key has the value of its last insertion, which may be that it has none. -/
  get?_eq_some_iff : ∀ k v, c.get? k = some v ↔ SortedMap.IsLastValue insertions k v
  /-- Only keys that were never inserted are unknown. -/
  get?_eq_none_iff : ∀ k, c.get? k = none ↔ k ∉ insertions.map (·.1)
  contains_iff : ∀ k, c.contains k = true ↔ k ∈ insertions.map (·.1)
  /-- Each inserted key is listed once. -/
  count_keys : ∀ k, c.keys.count k = if k ∈ insertions.map (·.1) then 1 else 0
  /-- The keys are listed in the order of their bytes. -/
  keys_sorted : c.keys.Pairwise fun a b => Text.utf8 a < Text.utf8 b
  /-- The entries are the keys with what look-up gives for them. -/
  toList_eq : c.toList.map (fun e => (e.1, some e.2)) = c.keys.map fun k => (k, c.get? k)
  size_eq : c.size = (insertions.map (·.1)).toFinset.card

theorem records_ofList (es : List (String × Option String)) : Records (.ofList es) es where
  get?_eq_some_iff _ _ := SortedMap.get?_ofList_eq_some_iff_isLastValue
  get?_eq_none_iff _ := SortedMap.get?_ofList_eq_none_iff
  contains_iff _ := SortedMap.contains_ofList es _
  count_keys k := by
    rw [(SortedMap.nodup_keys _).count]
    exact if_congr SortedMap.mem_keys_ofList rfl rfl
  keys_sorted := (SortedMap.keys_sorted _).imp Text.utf8_lt_utf8_iff.2
  toList_eq := SortedMap.toList_eq_map_keys _
  size_eq := SortedMap.size_ofList es

/-- These answers determine the context. -/
theorem records_iff {c : Context} {es : List (String × Option String)} :
    c.Records es ↔ c = .ofList es := by
  constructor
  · intro h
    refine SortedMap.ext_get? fun k => Option.ext fun v => ?_
    rw [h.get?_eq_some_iff, SortedMap.get?_ofList_eq_some_iff_isLastValue]
  · rintro rfl
    exact records_ofList es

/-- Different contexts have different JSON texts. -/
theorem compact_toJson_injective : Function.Injective fun c : Context => c.toJson.compact := by
  intro c d h
  have hentries : c.toList = d.toList := Json.compact_ofEntries_injective h
  obtain ⟨es, hes⟩ := c
  obtain ⟨fs, hfs⟩ := d
  subst hentries
  rfl

theorem eq_iff_get?_eq {c d : Context} : c = d ↔ ∀ k, c.get? k = d.get? k := by
  constructor
  · intro h k
    rw [h]
  · exact SortedMap.ext_get?

/-- The context that some insertions build, one after the other from the empty one, is the one that
records them. Contexts are equal, and are written as the same JSON text, exactly if look-up gives
the same for every key. -/
theorem canonical :
    (∀ (es : List (String × Option String)) (c : Context),
      es.foldl (fun c e => c.insert e.1 e.2) SortedMap.empty = c ↔ c.Records es) ∧
    ∀ c d : Context, (c = d ↔ ∀ k, c.get? k = d.get? k) ∧
      (c.toJson.compact = d.toJson.compact ↔ ∀ k, c.get? k = d.get? k) := by
  refine ⟨fun es c => ?_, fun c d => ⟨eq_iff_get?_eq, ?_⟩⟩
  · rw [records_iff, eq_comm]
    rfl
  · rw [← eq_iff_get?_eq]
    exact compact_toJson_injective.eq_iff

/-- The last value of a key stands in the place of the key, wherever the key was inserted first. -/
example : (Context.toJson (.ofList [("é", some "1"), ("z", some "2"), ("é", none)])).compact =
    "\x7b\"z\":\"2\",\"é\":null\x7d" := by
  decide +kernel

end TriggerPlan.Context
