import Mathlib.Data.List.Basic
import TriggerPlan.Json.Writer

/-!
# JSON texts of different values

A writer is self-delimiting if a text that begins with a written value tells the value and what
stands behind it. Strings are written so (`Json.writeString_selfDelimiting`): what one character is
written as is never the beginning of what another one is written as, nor does it start with a quote.
Objects are put together from self-delimiting parts. So two objects of texts and nulls that have
different entries have different texts (`Json.compact_ofEntries_injective`).
-/

namespace TriggerPlan.Json

/-! ## Self-delimiting writers -/

section Writers

variable {α β : Type}

/-- From a text that begins with a written value one can tell the value and what follows. -/
def SelfDelimiting (write : α → List Char) : Prop :=
  ∀ ⦃a b : α⦄ ⦃xs ys : List Char⦄, write a ++ xs = write b ++ ys → a = b ∧ xs = ys

/-- Every value is written with a first character, and this is not the given one. -/
def StartsWithout (stop : Char) (write : α → List Char) : Prop :=
  ∀ a, ∃ c, c ≠ stop ∧ (write a).head? = some c

variable {f : α → List Char} {g : β → List Char} {stop : Char}

theorem StartsWithout.cons_ne (h : StartsWithout stop f) {a : α} {xs ys : List Char} :
    stop :: xs ≠ f a ++ ys := by
  obtain ⟨c, hc, ha⟩ := h a
  intro heq
  have hhead := congrArg List.head? heq
  rw [List.head?_append, ha] at hhead
  exact hc (Option.some.inj hhead).symm

namespace SelfDelimiting

theorem injective (hf : SelfDelimiting f) : Function.Injective f := by
  intro a b h
  have hnil : f a ++ [] = f b ++ [] := by rw [h]
  exact (hf hnil).1

/-- Values can be written as others that they determine. -/
theorem comp (hf : SelfDelimiting f) {h : β → α} (hinj : Function.Injective h) :
    SelfDelimiting fun b => f (h b) := by
  intro a b xs ys heq
  obtain ⟨hab, hrest⟩ := hf heq
  exact ⟨hinj hab, hrest⟩

/-- A mark can stand before every value. -/
theorem prepend (hf : SelfDelimiting f) (mark : List Char) :
    SelfDelimiting fun a => mark ++ f a := by
  intro a b xs ys h
  rw [List.append_assoc, List.append_assoc] at h
  exact hf (List.append_cancel_left h)

/-- Two values can be written one after the other. -/
theorem pair (hf : SelfDelimiting f) (hg : SelfDelimiting g) :
    SelfDelimiting fun p : α × β => f p.1 ++ g p.2 := by
  rintro ⟨a, b⟩ ⟨a', b'⟩ xs ys h
  rw [List.append_assoc, List.append_assoc] at h
  obtain ⟨rfl, hsecond⟩ := hf h
  obtain ⟨rfl, hrest⟩ := hg hsecond
  exact ⟨rfl, hrest⟩

/-- Any number of values can be written one after the other if they end with a character that none
of them starts with. -/
theorem flatMap_concat (hf : SelfDelimiting f) (hstop : StartsWithout stop f) :
    SelfDelimiting fun as : List α => as.flatMap f ++ [stop] := by
  intro as bs xs ys h
  simp only [List.append_assoc, List.singleton_append] at h
  -- the next character tells whether there is one more value
  induction as generalizing bs with
  | nil =>
    cases bs with
    | nil => exact ⟨rfl, (List.cons.inj h).2⟩
    | cons b bs =>
      rw [List.flatMap_cons, List.append_assoc] at h
      exact absurd h hstop.cons_ne
  | cons a as ih =>
    rw [List.flatMap_cons, List.append_assoc] at h
    cases bs with
    | nil => exact absurd h.symm hstop.cons_ne
    | cons b bs =>
      rw [List.flatMap_cons, List.append_assoc] at h
      obtain ⟨rfl, htail⟩ := hf h
      obtain ⟨rfl, hrest⟩ := ih htail
      exact ⟨rfl, hrest⟩

/-- The same with a separator between the values. -/
theorem intercalate_concat (hf : SelfDelimiting f) (hstop : StartsWithout stop f) {separator : Char}
    (hseparator : separator ≠ stop) :
    SelfDelimiting fun as : List α => [separator].intercalate (as.map f) ++ [stop] := by
  -- each value behind the first has the separator before it
  have htail : SelfDelimiting fun as : List α =>
      as.flatMap (fun a => [separator] ++ f a) ++ [stop] :=
    (hf.prepend [separator]).flatMap_concat fun _ => ⟨separator, hseparator, rfl⟩
  have hcons (a : α) (as : List α) : [separator].intercalate ((a :: as).map f) ++ [stop] =
      f a ++ (as.flatMap (fun a => [separator] ++ f a) ++ [stop]) := by
    induction as generalizing a with
    | nil => simp
    | cons b as ih =>
      rw [List.map_cons, List.map_cons, List.intercalate_cons_cons, ← List.map_cons,
        List.append_assoc, List.append_assoc, ih]
      simp
  intro as bs xs ys h
  cases as with
  | nil =>
    cases bs with
    | nil => exact ⟨rfl, (List.cons.inj h).2⟩
    | cons b bs =>
      simp only [hcons, List.append_assoc (f b)] at h
      exact absurd h hstop.cons_ne
  | cons a as =>
    simp only [hcons, List.append_assoc (f a)] at h
    cases bs with
    | nil => exact absurd h.symm hstop.cons_ne
    | cons b bs =>
      simp only [hcons, List.append_assoc (f b)] at h
      obtain ⟨rfl, hbehind⟩ := hf h
      obtain ⟨rfl, hrest⟩ := htail hbehind
      exact ⟨rfl, hrest⟩

end SelfDelimiting

end Writers

/-! ## Strings -/

/-- The characters that do not stand for themselves in a string. -/
def escapedChars : List Char :=
  '"' :: '\\' :: (List.range 0x20).map Char.ofNat

theorem toList_escapedChar {c : Char} (h : c ∉ escapedChars) : (escapedChar c).toList = [c] := by
  have hprintable : ¬c.toNat < 0x20 := by
    intro hlt
    have hc : c ∈ (List.range 0x20).map Char.ofNat :=
      List.mem_map.2 ⟨c.toNat, List.mem_range.2 hlt, Char.ofNat_toNat c⟩
    exact h (List.mem_cons_of_mem _ (List.mem_cons_of_mem _ hc))
  unfold escapedChar
  split <;> first
    | exact absurd (by decide) h
    | rw [if_neg hprintable, String.toList_singleton]

/-- An escape starts with a backslash. -/
theorem head?_escapedChar (c : Char) :
    (escapedChar c).toList.head? = some (if c ∈ escapedChars then '\\' else c) := by
  have hescape : escapedChars.all (fun c => (escapedChar c).toList.head? == some '\\') = true := by
    decide +kernel
  split
  · rename_i hc
    exact eq_of_beq (List.all_eq_true.1 hescape c hc)
  · rename_i hc
    rw [toList_escapedChar hc, List.head?_cons]

/-- No escape is the beginning of another one. -/
theorem eq_of_isPrefix_escapedChar {c d : Char} (hc : c ∈ escapedChars) (hd : d ∈ escapedChars)
    (h : (escapedChar c).toList <+: (escapedChar d).toList) : c = d := by
  have hescapes : escapedChars.all (fun c => escapedChars.all fun d =>
      !(escapedChar c).toList.isPrefixOf (escapedChar d).toList || c == d) = true := by
    decide +kernel
  have hpair := List.all_eq_true.1 (List.all_eq_true.1 hescapes c hc) d hd
  rw [List.isPrefixOf_iff_prefix.2 h, Bool.not_true, Bool.false_or] at hpair
  exact eq_of_beq hpair

theorem escapedChar_selfDelimiting : SelfDelimiting fun c => (escapedChar c).toList := by
  intro c d xs ys h
  have hhead := congrArg List.head? h
  rw [List.head?_append, List.head?_append, head?_escapedChar, head?_escapedChar] at hhead
  have hfirst := Option.some.inj hhead
  have hbackslash : '\\' ∈ escapedChars := by decide
  have hcd : c = d := by
    by_cases hc : c ∈ escapedChars <;> by_cases hd : d ∈ escapedChars
    · have hbegins : (escapedChar c).toList <+: (escapedChar d).toList ++ ys := ⟨xs, h⟩
      rcases List.prefix_or_prefix_of_prefix hbegins (List.prefix_append _ ys) with hp | hp
      · exact eq_of_isPrefix_escapedChar hc hd hp
      · exact (eq_of_isPrefix_escapedChar hd hc hp).symm
    · rw [if_pos hc, if_neg hd] at hfirst
      exact absurd (hfirst ▸ hbackslash) hd
    · rw [if_neg hc, if_pos hd] at hfirst
      exact absurd (hfirst ▸ hbackslash) hc
    · rwa [if_neg hc, if_neg hd] at hfirst
  subst hcd
  exact ⟨rfl, List.append_cancel_left h⟩

theorem escapedChar_startsWithout_quote : StartsWithout '"' fun c => (escapedChar c).toList := by
  intro c
  refine ⟨_, ?_, head?_escapedChar c⟩
  split
  · decide
  · rename_i hc
    rintro rfl
    exact hc (by decide)

theorem toList_writeString (s : String) : (writeString s).toList =
    ['"'] ++ (s.toList.flatMap (fun c => (escapedChar c).toList) ++ ['"']) := by
  simp [writeString, List.flatMap_map]

/-- A string ends at the first quote that is not part of an escape. -/
theorem writeString_selfDelimiting : SelfDelimiting fun s => (writeString s).toList := by
  have hchars := escapedChar_selfDelimiting.flatMap_concat escapedChar_startsWithout_quote
  simp only [toList_writeString]
  exact (hchars.prepend ['"']).comp fun _ _ h => String.toList_inj.1 h

/-! ## Objects of texts and nulls -/

theorem head?_ofStringOrNull (v : Option String) :
    (compact (ofStringOrNull v)).toList.head? = some (if v.isSome then '"' else 'n') := by
  cases v with
  | none => rfl
  | some s =>
    rw [ofStringOrNull, compact, toList_writeString]
    rfl

theorem ofStringOrNull_selfDelimiting :
    SelfDelimiting fun v => (compact (ofStringOrNull v)).toList := by
  intro v w xs ys h
  -- the first character tells a text from null
  have hhead := congrArg List.head? h
  rw [List.head?_append, List.head?_append, head?_ofStringOrNull, head?_ofStringOrNull] at hhead
  have hfirst := Option.some.inj hhead
  cases v with
  | none =>
    cases w with
    | none => exact ⟨rfl, List.append_cancel_left h⟩
    | some t => exact absurd hfirst (by simp)
  | some s =>
    cases w with
    | none => exact absurd hfirst (by simp)
    | some t =>
      obtain ⟨rfl, hrest⟩ := writeString_selfDelimiting h
      exact ⟨rfl, hrest⟩

/-- The characters of a field: its name and its text or null. -/
def fieldChars (e : String × Option String) : List Char :=
  (writeString e.1).toList ++ ([':'] ++ (compact (ofStringOrNull e.2)).toList)

theorem fieldChars_selfDelimiting : SelfDelimiting fieldChars :=
  writeString_selfDelimiting.pair (ofStringOrNull_selfDelimiting.prepend [':'])

theorem fieldChars_startsWithout_brace : StartsWithout '\x7d' fieldChars := by
  intro e
  refine ⟨'"', by decide, ?_⟩
  rw [fieldChars, toList_writeString]
  rfl

/-- The object with a field for each entry. -/
def ofEntries (es : List (String × Option String)) : Json :=
  .object (es.map fun e => (e.1, ofStringOrNull e.2))

theorem toList_compact_ofEntries (es : List (String × Option String)) :
    (compact (ofEntries es)).toList =
      ['\x7b'] ++ ([','].intercalate (es.map fieldChars) ++ ['\x7d']) := by
  have hfields : (compactFields (es.map fun e => (e.1, ofStringOrNull e.2))).map String.toList =
      es.map fieldChars := by
    induction es with
    | nil => rfl
    | cons e es ih =>
      rw [List.map_cons, compactFields, List.map_cons, ih, List.map_cons, fieldChars]
      simp
  rw [ofEntries, compact, String.toList_append, String.toList_append, String.toList_intercalate,
    hfields, List.append_assoc]
  rfl

/-- Different entries make objects with different texts. -/
theorem compact_ofEntries_injective : Function.Injective fun es => compact (ofEntries es) := by
  intro es fs h
  have hcomma : ',' ≠ '\x7d' := by decide
  have hfields :=
    fieldChars_selfDelimiting.intercalate_concat fieldChars_startsWithout_brace hcomma
  have htext := congrArg String.toList h
  simp only [toList_compact_ofEntries] at htext
  exact (hfields.prepend ['\x7b']).injective htext

end TriggerPlan.Json
