import TriggerPlan.Model.Operation
import TriggerPlan.Proofs.Resolution.Context

/-!
# Sizes in decimal

A text is read as a size exactly if it is an optional plus sign and one or more digits that denote a
number in range (`Size.ofText_eq_ok_iff`). The text of an integer denotes this integer, unless it is
negative (`Size.denotes_toString_iff`). So an integer and its text give a layer the same size or are
refused alike, and the text that a context has for a size is read back as this size
(`Size.number_agrees_with_text`).
-/

namespace TriggerPlan

namespace Size

/-! ## What a text denotes -/

/-- The text is an optional plus sign and one or more ASCII digits, which denote the number. -/
def Denotes (s : String) (n : Nat) : Prop :=
  ∃ sign digits, s.toList = sign ++ digits ∧ (sign = [] ∨ sign = ['+']) ∧ digits ≠ [] ∧
    (∀ c ∈ digits, c.isDigit = true) ∧ Nat.ofDigitChars 10 digits 0 = n

/-- A text that does not start with a plus sign is unsigned. -/
theorem unsigned_eq_of_head {s : String} {c : Char} {cs : List Char} (hs : s.toList = c :: cs)
    (hc : c ≠ '+') : unsigned s = c :: cs := by
  rw [unsigned, hs]
  split
  · rename_i h
    exact absurd (List.cons.inj h).1 hc
  · rfl

theorem denotes_iff {s : String} {n : Nat} : Denotes s n ↔ IsNumeral s ∧ value s = n := by
  constructor
  · rintro ⟨sign, digits, hs, hsign, hne, hdigits, hn⟩
    have hunsigned : unsigned s = digits := by
      rcases hsign with rfl | rfl
      · obtain ⟨c, cs, rfl⟩ := List.exists_cons_of_ne_nil hne
        refine unsigned_eq_of_head hs ?_
        rintro rfl
        -- a plus sign is no digit
        exact absurd (hdigits '+' List.mem_cons_self) (by decide)
      · rw [unsigned, hs]
        rfl
    rw [IsNumeral, value, hunsigned]
    exact ⟨⟨hne, hdigits⟩, hn⟩
  · rintro ⟨⟨hne, hdigits⟩, hn⟩
    have hsplit : s.toList = unsigned s ∨ s.toList = '+' :: unsigned s := by
      rw [unsigned]
      split
      · rename_i h
        exact .inr h
      · exact .inl rfl
    rcases hsplit with hs | hs
    · exact ⟨[], unsigned s, hs, .inl rfl, hne, hdigits, hn⟩
    · exact ⟨['+'], unsigned s, hs, .inr rfl, hne, hdigits, hn⟩

/-! ## Reading -/

/-- A text is read as the size that it denotes. -/
theorem ofText_eq_ok_iff (path s : String) (n : UInt32) :
    ofText path s = .ok n ↔ Denotes s n.toNat := by
  rw [Layer.ofText_yields, denotes_iff]
  constructor
  · rintro ⟨⟨hnumeral, hlt⟩, rfl⟩
    exact ⟨hnumeral, (UInt32.toNat_ofNat_of_lt' hlt).symm⟩
  · rintro ⟨hnumeral, hvalue⟩
    rw [hvalue, UInt32.ofNat_toNat]
    exact ⟨⟨hnumeral, n.toNat_lt⟩, rfl⟩

/-- A text is read as a size if it denotes one. -/
theorem exists_ofText_iff (path s : String) :
    (∃ n, ofText path s = .ok n) ↔ ∃ n, Denotes s n ∧ n < bound := by
  simp only [ofText_eq_ok_iff]
  constructor
  · rintro ⟨n, hn⟩
    exact ⟨n.toNat, hn, n.toNat_lt⟩
  · rintro ⟨n, hn, hlt⟩
    refine ⟨UInt32.ofNat n, ?_⟩
    rwa [UInt32.toNat_ofNat_of_lt' hlt]

/-- A text that is no size is reported as it stands. -/
theorem exists_ofText_eq_error {s : String} (path : String)
    (h : ¬∃ n, Denotes s n ∧ n < bound) :
    ∃ reason, ofText path s =
      .error (.invalidConfiguration path "versionHistorySize" s reason) := by
  rw [← exists_ofText_iff path] at h
  unfold ofText at h ⊢
  split at h
  · exact absurd ⟨_, rfl⟩ h
  · exact ⟨_, rfl⟩

/-! ## Integers as text -/

/-- The digits of a number denote it. -/
theorem denotes_toString (n : Nat) : Denotes (toString n) n := by
  refine ⟨[], Nat.toDigits 10 n, ?_, .inl rfl, Nat.toDigits_ne_nil, ?_,
    Nat.ofDigitChars_ten_toDigits⟩
  · rw [Nat.toString_eq_ofList_toDigits, String.toList_ofList, List.nil_append]
  · exact fun c hc => Nat.isDigit_of_mem_toDigits (by decide) (by decide) hc

/-- The text of an integer denotes this integer and nothing else. A negative one has a sign that is
not allowed. -/
theorem denotes_toString_iff (i : Int) (n : Nat) : Denotes (toString i) n ↔ i = n := by
  rw [Int.toString_eq_repr, Int.repr_eq_if]
  by_cases hi : 0 ≤ i
  · have hdenotes : Denotes i.toNat.repr i.toNat := denotes_toString i.toNat
    rw [if_pos hi]
    rw [denotes_iff] at hdenotes ⊢
    constructor
    · rintro ⟨-, hn⟩
      omega
    · intro hn
      refine ⟨hdenotes.1, ?_⟩
      omega
  · rw [if_neg hi]
    constructor
    · intro h
      obtain ⟨⟨-, hdigits⟩, -⟩ := denotes_iff.1 h
      have hminus : ("-" ++ (-i).toNat.repr).toList = '-' :: (-i).toNat.repr.toList := by
        rw [String.toList_append]
        rfl
      rw [unsigned_eq_of_head hminus (by decide)] at hdigits
      exact absurd (hdigits '-' List.mem_cons_self) (by decide)
    · intro hn
      omega

/-- The text of an integer denotes a size if the integer is in range. -/
theorem exists_denotes_toString_iff (i : Int) :
    (∃ n, Denotes (toString i) n ∧ n < bound) ↔ 0 ≤ i ∧ i < bound := by
  simp only [denotes_toString_iff]
  constructor
  · rintro ⟨n, rfl, hlt⟩
    omega
  · intro hi
    refine ⟨i.toNat, ?_, ?_⟩ <;> omega

end Size

/-! ## Assignments in place -/

namespace Layer

/-- Makes a change to a layer in place, for the entity at `path`. -/
def edit (path : String) (change : LayerChange) : Edit Layer Unit :=
  .update (·.change path change)

/-- The value, when it is assigned to the size of the entity at `path`, leaves a layer of the size
`i` in which every text is as it was. -/
def Stores (l : Layer) (path : String) (v : Value) (i : Int) : Prop :=
  ∃ l' n, edit path (.assign .versionHistorySize v) l = .ok () l' ∧
    l'.versionHistorySize = some n ∧ (n.toNat : Int) = i ∧ ∀ k, l'.text k = l.text k

/-- The value, when it is assigned to the size of the entity at `path`, is reported as `shown` under
the name of the size, and the layer is left as it is. -/
def Refuses (l : Layer) (path : String) (v : Value) (shown : String) : Prop :=
  ∃ reason, edit path (.assign .versionHistorySize v) l =
    .error (.failed (.invalidConfiguration path "versionHistorySize" shown reason)) l

variable {l : Layer} {path shown : String} {v : Value}

/-- Only one layer can be left when a size is stored. -/
theorem Stores.edit_eq {i : Int} {n : UInt32} (h : l.Stores path v i) (hi : (n.toNat : Int) = i) :
    edit path (.assign .versionHistorySize v) l =
      .ok () { l with versionHistorySize := some n } := by
  obtain ⟨l', n', hedit, hsize, hn, htext⟩ := h
  have hnn : n' = n := UInt32.toNat_inj.1 (by omega)
  have heq : l' = { l with versionHistorySize := some n } := by
    refine ext_text (fun k => ?_) ?_
    · rw [htext k]
      cases k <;> rfl
    · rw [hsize, hnn]
  rw [hedit, heq]

theorem stores_of_sizeOfValue {n : UInt32} (h : sizeOfValue path v = .ok (some n)) :
    l.Stores path v n.toNat := by
  have hassign : l.assign path .versionHistorySize v = .ok (l.setSize (some n)) := by
    rw [assign, h]
    rfl
  refine ⟨l.setSize (some n), n, Edit.update_eq_ok hassign, ?_, rfl, ?_⟩
  · exact versionHistorySize_setSize ..
  · exact text_setSize l (some n)

theorem refuses_of_sizeOfValue {reason : String}
    (h : sizeOfValue path v = .error
      (.invalidConfiguration path "versionHistorySize" shown reason)) :
    l.Refuses path v shown := by
  have hassign : l.assign path .versionHistorySize v = .error
      (.invalidConfiguration path "versionHistorySize" shown reason) := by
    rw [assign, h]
    rfl
  exact ⟨reason, Edit.update_eq_error hassign⟩

/-- An integer in range is stored. -/
theorem stores_integer (n : UInt32) : l.Stores path (.integer n.toNat) n.toNat := by
  have hrange : (0 : Int) ≤ n.toNat ∧ (n.toNat : Int) < Size.bound := by
    have hlt : n.toNat < Size.bound := n.toNat_lt
    omega
  refine stores_of_sizeOfValue ?_
  rw [sizeOfValue, if_pos hrange, Int.toNat_natCast, UInt32.ofNat_toNat]

theorem stores_text {s : String} {n : UInt32} (h : Size.ofText path s = .ok n) :
    l.Stores path (.string s) n.toNat := by
  refine stores_of_sizeOfValue ?_
  rw [sizeOfValue, h]
  rfl

/-- An integer out of range is refused. -/
theorem refuses_integer {i : Int} (h : ¬(0 ≤ i ∧ i < Size.bound)) :
    l.Refuses path (.integer i) (toString i) := by
  have hread : sizeOfValue path (.integer i) =
      .error (.invalidConfiguration path "versionHistorySize" (toString i)
        "must be a non-negative integer") := by
    rw [sizeOfValue, if_neg h]
    rfl
  exact refuses_of_sizeOfValue hread

theorem refuses_text {s reason : String}
    (h : Size.ofText path s = .error
      (.invalidConfiguration path "versionHistorySize" s reason)) :
    l.Refuses path (.string s) s := by
  have hread : sizeOfValue path (.string s) =
      .error (.invalidConfiguration path "versionHistorySize" s reason) := by
    rw [sizeOfValue, h]
    rfl
  exact refuses_of_sizeOfValue hread

end Layer

/-! ## Sizes in contexts -/

/-- A context has the decimal text of the size. -/
theorem View.get?_context_versionHistorySize (v : View) (properties : ProjectProperties) :
    (v.context properties).get? "versionHistorySize" =
      some (some (toString v.versionHistorySize.toNat)) := by
  rw [← SortedMap.mem_toList_iff, toList_context]
  simp [contextEntries]

namespace Size

/-- An integer and its decimal text give every layer the same size if the integer is in range, and
otherwise are refused with the same value. A text is read as a size exactly if it denotes one, and
then as the number that it denotes. So the text of a size in a context is read as this size. -/
theorem number_agrees_with_text :
    (∀ (l : Layer) (path : String) (i : Int),
      if 0 ≤ i ∧ i ≤ 4294967295 then
        l.Stores path (.integer i) i ∧ l.Stores path (.string (toString i)) i
      else
        l.Refuses path (.integer i) (toString i) ∧
          l.Refuses path (.string (toString i)) (toString i)) ∧
    (∀ path text : String,
      ((∃ n, ofText path text = .ok n) ↔ ∃ n, Denotes text n ∧ n ≤ 4294967295) ∧
        ∀ n, ofText path text = .ok n ↔ Denotes text n.toNat) ∧
    ∀ (v : View) (properties : ProjectProperties) (path : String),
      ∃ text, (v.context properties).get? "versionHistorySize" = some (some text) ∧
        ofText path text = .ok
          ((v.trigger.settings.versionHistorySize.or
            (v.repository.settings.versionHistorySize.or v.global.versionHistorySize)).getD 2) := by
  have hbound : bound = 4294967296 := rfl
  refine ⟨fun l path i => ?_, fun path text => ⟨?_, ofText_eq_ok_iff path text⟩,
    fun v properties path => ?_⟩
  · split
    · rename_i hi
      -- the number in range is a size, and both values are read as this size
      obtain ⟨n, rfl⟩ : ∃ n : UInt32, i = n.toNat := by
        refine ⟨UInt32.ofNat i.toNat, ?_⟩
        have hlt : i.toNat < UInt32.size := by
          show i.toNat < 4294967296
          omega
        rw [UInt32.toNat_ofNat_of_lt' hlt]
        omega
      have htext : ofText path (toString (n.toNat : Int)) = .ok n :=
        (ofText_eq_ok_iff path _ n).2 ((denotes_toString_iff _ _).2 rfl)
      exact ⟨Layer.stores_integer n, Layer.stores_text htext⟩
    · rename_i hi
      have hrange : ¬(0 ≤ i ∧ i < bound) := by omega
      obtain ⟨reason, htext⟩ := exists_ofText_eq_error path
        (mt (exists_denotes_toString_iff i).1 hrange)
      exact ⟨Layer.refuses_integer hrange, Layer.refuses_text htext⟩
  · rw [exists_ofText_iff]
    refine exists_congr fun n => and_congr_right fun _ => ?_
    omega
  · rw [← View.firstDefined_eq_or v (·.versionHistorySize)]
    exact ⟨_, v.get?_context_versionHistorySize properties,
      (ofText_eq_ok_iff path _ _).2 (denotes_toString _)⟩

/-- A size that is given as a number or in decimal is stored beside the group of the layer, and the
first number that is too large is refused either way. -/
theorem number_agrees_with_text_at_bounds :
    (∀ v ∈ [Value.integer 4294967295, Value.string "4294967295"],
      Layer.edit "triggers/r" (.assign .versionHistorySize v) { group := some "org" } =
        .ok () { group := some "org", versionHistorySize := some 4294967295 }) ∧
    ∀ v ∈ [Value.integer 4294967296, Value.string "4294967296"], ∃ reason,
      Layer.edit "triggers/r" (.assign .versionHistorySize v) { group := some "org" } =
        .error (.failed (.invalidConfiguration "triggers/r" "versionHistorySize" "4294967296" reason))
          { group := some "org" } := by
  obtain ⟨hlayer, -, -⟩ := number_agrees_with_text
  have hstores := hlayer { group := some "org" } "triggers/r" 4294967295
  have hrefuses := hlayer { group := some "org" } "triggers/r" 4294967296
  rw [if_pos (by decide)] at hstores
  rw [if_neg (by decide)] at hrefuses
  constructor
  · rw [List.forall_mem_cons, List.forall_mem_singleton]
    exact ⟨hstores.1.edit_eq rfl, hstores.2.edit_eq rfl⟩
  · rw [List.forall_mem_cons, List.forall_mem_singleton]
    exact hrefuses

/-- The digits of another script denote nothing. -/
example : ¬Denotes "٣" 3 := by
  rw [denotes_iff]
  decide

end Size

end TriggerPlan
