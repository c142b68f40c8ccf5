import Mathlib.Data.List.Forall2
import Mathlib.Data.Prod.Basic
import TriggerPlan.Declaration.Load

/-!
# Declarations and their documents

What a declaration has in common with the KDL document it is made from. A declared node mirrors a
KDL node if, wherever one goes from block to block below the two, there is a node in both or in
neither, with the same name, the same values and a block in both or in neither. The blocks of a
document's declaration mirror its top-level nodes of the name `triggers`, and no other declaration
has such blocks (`Declaration.eq_ofDocument_iff`). All that a declared node does not keep is how the
arguments and the properties of its KDL node are mixed (`Node.ofKdl_eq_ofKdl_iff`).
-/

namespace TriggerPlan

/-! ## Lists -/

section Lists

variable {α β : Type} {R : α → β → Prop}

/-- A list is related to another, element by element, by a relation that is a function. -/
theorem forall₂_iff_map_eq {f : α → β} (h : ∀ a b, R a b ↔ f a = b) {as : List α} {bs : List β} :
    List.Forall₂ R as bs ↔ as.map f = bs := by
  have hR : R = fun a b => f a = b := by
    funext a b
    exact propext (h a b)
  rw [hR, ← List.forall₂_map_left_iff, List.forall₂_eq_eq_eq]

/-- Lists are related element by element if at every index they have related elements or none. -/
theorem forall₂_of_rel_getElem? {as : List α} {bs : List β}
    (h : ∀ i : Nat, Option.Rel R as[i]? bs[i]?) : List.Forall₂ R as bs := by
  induction as generalizing bs with
  | nil =>
    cases bs with
    | nil => exact .nil
    | cons b bs => cases h 0
  | cons a as ih =>
    cases bs with
    | nil => cases h 0
    | cons b bs =>
      have hab : Option.Rel R (some a) (some b) := h 0
      cases hab with
      | some hab => exact .cons hab (ih fun i => h (i + 1))

/-- A list that may be missing is determined by its elements and by whether it is there. -/
theorem eq_of_getD_nil_eq {as bs : Option (List α)} (hsome : as.isSome = bs.isSome)
    (helements : as.getD [] = bs.getD []) : as = bs := by
  cases as with
  | none =>
    cases bs with
    | none => rfl
    | some bs => exact Bool.noConfusion hsome
  | some as =>
    cases bs with
    | none => exact Bool.noConfusion hsome
    | some bs => exact congrArg some helements

end Lists

/-! ## Values -/

/-- The declared value has the type and the content of the KDL value. -/
inductive Value.Copies : Kdl.Value → Value → Prop where
  | string (text : String) : Copies (.string text) (.string text)
  | integer (i : Int) : Copies (.integer i) (.integer i)
  | float (x : Binary64) : Copies (.float x) (.float x)
  | boolean (b : Bool) : Copies (.boolean b) (.boolean b)
  | null : Copies .null .null

/-- Every KDL value has one copy, and that is what it is declared as. -/
theorem Value.copies_iff (k : Kdl.Value) (v : Value) : v.Copies k ↔ Value.ofKdl k = v := by
  constructor
  · intro h
    cases h <;> rfl
  · rintro rfl
    cases k with
    | string text => exact .string text
    | integer i => exact .integer i
    | float x => exact .float x
    | boolean b => exact .boolean b
    | null => exact .null

/-- A value is the copy of one KDL value at most. -/
theorem Value.ofKdl_injective : Function.Injective Value.ofKdl := by
  intro k l h
  have hk : (Value.ofKdl l).Copies k := (copies_iff k _).2 h
  have hl : (Value.ofKdl l).Copies l := (copies_iff l _).2 rfl
  generalize Value.ofKdl l = v at hk hl
  cases hk <;> cases hl <;> rfl

/-! ## Entries -/

namespace Kdl.Node

/-- The values of the entries without a key, in order. -/
def unkeyedValues (k : Node) : List Value :=
  (k.entries.filter (·.key?.isNone)).map (·.value)

/-- The keys and values of the entries with a key, in order. -/
def keyedValues (k : Node) : List (String × Value) :=
  k.entries.filterMap fun e => e.key?.map fun key => (key, e.value)

/-- The nodes of the block, if there is one. -/
def children (k : Node) : List Node :=
  k.block?.getD []

end Kdl.Node

/-- The arguments are the entries without a key. -/
theorem argumentsOfEntries_eq_map (k : Kdl.Node) :
    argumentsOfEntries k.entries = k.unkeyedValues.map Value.ofKdl := by
  unfold argumentsOfEntries Kdl.Node.unkeyedValues
  induction k.entries with
  | nil => rfl
  | cons e es ih =>
    obtain ⟨_ | key, v⟩ := e
    · exact congrArg (Value.ofKdl v :: ·) ih
    · exact ih

/-- The properties are the entries with a key. -/
theorem propertiesOfEntries_eq_map (k : Kdl.Node) :
    propertiesOfEntries k.entries = k.keyedValues.map (Prod.map id Value.ofKdl) := by
  unfold propertiesOfEntries Kdl.Node.keyedValues
  rw [List.map_filterMap]
  congr 1
  funext e
  rw [Option.map_map]
  rfl

namespace Node

/-- A declared node in terms of its KDL node. -/
theorem ofKdl_eq (k : Kdl.Node) : ofKdl k =
    { name := k.name
      arguments := k.unkeyedValues.map Value.ofKdl
      properties := k.keyedValues.map (Prod.map id Value.ofKdl)
      block? := k.block?.map (·.map ofKdl) } := by
  rw [← argumentsOfEntries_eq_map, ← propertiesOfEntries_eq_map, ← blockOfKdl_eq_map]
  cases k
  rfl

theorem block?_ofKdl (k : Kdl.Node) : (ofKdl k).block? = k.block?.map (·.map ofKdl) :=
  congrArg Node.block? (ofKdl_eq k)

theorem children_ofKdl (k : Kdl.Node) : (ofKdl k).children = k.children.map ofKdl := by
  rw [children, block?_ofKdl, Kdl.Node.children]
  cases k.block? <;> rfl

/-- The declared node has the name and the values of the KDL node, and it has a block if the KDL
node has one. Nothing is asked of the nodes inside. -/
structure Resembles (k : Kdl.Node) (n : Node) : Prop where
  name : n.name = k.name
  arguments : List.Forall₂ Value.Copies k.unkeyedValues n.arguments
  properties : List.Forall₂ (fun p q => q.1 = p.1 ∧ q.2.Copies p.2) k.keyedValues n.properties
  block : n.block?.isSome = k.block?.isSome

theorem resembles_iff {k : Kdl.Node} {n : Node} : n.Resembles k ↔
    n.name = k.name ∧ k.unkeyedValues.map Value.ofKdl = n.arguments ∧
      k.keyedValues.map (Prod.map id Value.ofKdl) = n.properties ∧
      n.block?.isSome = k.block?.isSome := by
  have hpair (p : String × Kdl.Value) (q : String × Value) :
      q.1 = p.1 ∧ q.2.Copies p.2 ↔ Prod.map id Value.ofKdl p = q := by
    rw [Value.copies_iff, Prod.ext_iff, eq_comm]
    rfl
  rw [← forall₂_iff_map_eq Value.copies_iff, ← forall₂_iff_map_eq hpair]
  exact ⟨fun ⟨hname, harguments, hproperties, hblock⟩ => ⟨hname, harguments, hproperties, hblock⟩,
    fun ⟨hname, harguments, hproperties, hblock⟩ => ⟨hname, harguments, hproperties, hblock⟩⟩

end Node

/-! ## Places below a node -/

/-- The node that one comes to from a KDL node by entering its block, the block of a node in there,
and so on. The nodes of a block are counted from zero. -/
def Kdl.Node.at? : Kdl.Node → List Nat → Option Kdl.Node
  | k, [] => some k
  | k, i :: way => k.children[i]?.bind (·.at? way)

namespace Node

/-- The same for a declared node. -/
def at? : Node → List Nat → Option Node
  | n, [] => some n
  | n, i :: way => n.children[i]?.bind (·.at? way)

/-- At every place below the two nodes, themselves included, there is a node in both or in neither,
and the declared node there resembles the KDL node there. -/
def Mirrors (k : Kdl.Node) (n : Node) : Prop :=
  ∀ way, Option.Rel Resembles (k.at? way) (n.at? way)

/-- What is declared at a place is what the KDL node there is declared as. -/
theorem at?_ofKdl (k : Kdl.Node) (way : List Nat) : (ofKdl k).at? way = (k.at? way).map ofKdl := by
  induction way generalizing k with
  | nil => rfl
  | cons i way ih =>
    rw [at?, Kdl.Node.at?, children_ofKdl, List.getElem?_map]
    cases k.children[i]? with
    | none => rfl
    | some child => exact ih child

theorem mirrors_ofKdl (k : Kdl.Node) : (ofKdl k).Mirrors k := by
  intro way
  rw [at?_ofKdl]
  cases k.at? way with
  | none => exact .none
  | some child =>
    refine .some (resembles_iff.2 ?_)
    rw [ofKdl_eq]
    exact ⟨rfl, rfl, rfl, Option.isSome_map⟩

/-- The nodes inside mirror each other one by one. -/
theorem Mirrors.children {k : Kdl.Node} {n : Node} (h : n.Mirrors k) :
    List.Forall₂ Mirrors k.children n.children := by
  apply forall₂_of_rel_getElem?
  intro i
  have hway (way : List Nat) : Option.Rel Resembles (k.children[i]?.bind (·.at? way))
      (n.children[i]?.bind (·.at? way)) := h (i :: way)
  generalize k.children[i]? = child at hway
  generalize n.children[i]? = child' at hway
  -- the way that ends at the child tells whether there is one
  cases child with
  | none =>
    cases child' with
    | none => exact .none
    | some m => cases hway []
  | some j =>
    cases child' with
    | none => cases hway []
    | some m => exact .some hway

end Node

/-! ## Nodes and their mirrors -/

theorem Kdl.Node.sizeOf_lt_of_mem_children {k child : Kdl.Node} (h : child ∈ k.children) :
    sizeOf child < sizeOf k := by
  obtain ⟨name, entries, block?⟩ := k
  cases block? with
  | none => cases h
  | some ks =>
    have hlt : sizeOf child < sizeOf ks := List.sizeOf_lt_of_mem h
    rw [mk.sizeOf_spec, Option.some.sizeOf_spec]
    omega

/-- What holds of a KDL node if it holds of the nodes inside holds of all KDL nodes. -/
theorem Kdl.Node.induction {P : Kdl.Node → Prop}
    (node : ∀ k : Kdl.Node, (∀ child ∈ k.children, P child) → P k) (k : Kdl.Node) : P k :=
  node k fun child hchild =>
    have : sizeOf child < sizeOf k := sizeOf_lt_of_mem_children hchild
    induction node child
termination_by sizeOf k

namespace Node

/-- The declared node is the only one that mirrors a KDL node. -/
theorem mirrors_iff (k : Kdl.Node) (n : Node) : n.Mirrors k ↔ ofKdl k = n := by
  constructor
  · intro h
    induction k using Kdl.Node.induction generalizing n with
    | node k ih =>
      have hself : Option.Rel Resembles (some k) (some n) := h []
      cases hself with
      | some hself =>
        obtain ⟨hname, harguments, hproperties, hblock⟩ := resembles_iff.1 hself
        have hchildren : k.children.map ofKdl = n.children := by
          rw [← forall₂_iff_map_eq fun _ _ => Iff.rfl]
          exact ((List.forall₂_and_left _ _).2 ⟨ih, h.children⟩).imp fun _ m hm => hm.1 m hm.2
        have hblock? : (ofKdl k).block? = n.block? := by
          refine eq_of_getD_nil_eq ?_ ((children_ofKdl k).trans hchildren)
          rw [block?_ofKdl, hblock, Option.isSome_map]
        rw [ofKdl_eq, ← block?_ofKdl, ← hname, harguments, hproperties, hblock?]
        cases n
        rfl
  · rintro rfl
    exact mirrors_ofKdl k

/-- Two KDL nodes are declared alike exactly if they have the same name, the same values without
keys, the same ones with keys, and either no blocks or blocks of nodes that are declared alike. -/
theorem ofKdl_eq_ofKdl_iff {k l : Kdl.Node} : ofKdl k = ofKdl l ↔
    k.name = l.name ∧ k.unkeyedValues = l.unkeyedValues ∧ k.keyedValues = l.keyedValues ∧
      (k.block? = none ∧ l.block? = none ∨ ∃ ks ls, k.block? = some ks ∧ l.block? = some ls ∧
        List.Forall₂ (fun a b => ofKdl a = ofKdl b) ks ls) := by
  have hlist (ks ls : List Kdl.Node) :
      List.Forall₂ (fun a b => ofKdl a = ofKdl b) ks ls ↔ ks.map ofKdl = ls.map ofKdl := by
    rw [← List.forall₂_eq_eq_eq, List.forall₂_map_left_iff, List.forall₂_map_right_iff]
  have hpair : Function.Injective (Prod.map (id : String → String) Value.ofKdl) :=
    Function.injective_id.prodMap Value.ofKdl_injective
  rw [ofKdl_eq, ofKdl_eq, Node.mk.injEq, List.map_inj_right fun _ _ h => Value.ofKdl_injective h,
    List.map_inj_right fun _ _ h => hpair h]
  refine and_congr_right fun _ => and_congr_right fun _ => and_congr_right fun _ => ?_
  simp only [hlist]
  cases k.block? <;> cases l.block? <;> simp

end Node

/-! ## Documents -/

namespace Declaration

/-- The declaration of a document is the one with a block for each top-level node of the name
`triggers`, in order, that mirrors this node. -/
theorem eq_ofDocument_iff {document : Kdl.Document} {d : Declaration} :
    d = .ofDocument document ↔
      List.Forall₂ Node.Mirrors (document.nodes.filter (·.name = "triggers")) d.blocks := by
  rw [forall₂_iff_map_eq Node.mirrors_iff]
  constructor
  · rintro rfl
    rfl
  · intro h
    obtain ⟨blocks⟩ := d
    rw [ofDocument]
    exact congrArg mk h.symm

/-- A text is read as a declaration if the parser makes a document of it and the declaration is that
of the document. -/
theorem readWith_eq_ok_iff {parse? : String → Option Kdl.Document} {text : String}
    {d : Declaration} :
    readWith parse? text = .ok d ↔
      ∃ document, parse? text = some document ∧ d = .ofDocument document := by
  unfold readWith
  cases parse? text with
  | none => simp
  | some document => simp [eq_comm]

/-- The declaration of a document has a block for each top-level node of the name `triggers`, in
order, and no others, and each block mirrors its node at every depth. Whatever parser is used,
reading a text gives the declaration of the document that the parser makes of it; the program uses
the one for KDL. Nodes are declared alike exactly if they have the same name, the same values without
keys, the same ones with keys, and either no blocks or blocks of nodes that are declared alike. -/
theorem mirrors_document :
    (∀ (document : Kdl.Document) (d : Declaration), d = .ofDocument document ↔
      List.Forall₂ Node.Mirrors (document.nodes.filter (·.name = "triggers")) d.blocks) ∧
    (∀ (parse? : String → Option Kdl.Document) (text : String) (d : Declaration),
      readWith parse? text = .ok d ↔ ∃ document, parse? text = some document ∧
        List.Forall₂ Node.Mirrors (document.nodes.filter (·.name = "triggers")) d.blocks) ∧
    (∀ text, read text = readWith Kdl.read? text) ∧
    (∀ (k : Kdl.Node) (n : Node), n.Mirrors k ↔ Node.ofKdl k = n) ∧
    ∀ k l : Kdl.Node, Node.ofKdl k = Node.ofKdl l ↔
      k.name = l.name ∧ k.unkeyedValues = l.unkeyedValues ∧ k.keyedValues = l.keyedValues ∧
        (k.block? = none ∧ l.block? = none ∨ ∃ ks ls, k.block? = some ks ∧ l.block? = some ls ∧
          List.Forall₂ (fun a b => Node.ofKdl a = Node.ofKdl b) ks ls) := by
  refine ⟨fun _ _ => eq_ofDocument_iff, fun parse? text d => ?_, fun _ => rfl, Node.mirrors_iff,
    fun _ _ => Node.ofKdl_eq_ofKdl_iff⟩
  simp only [readWith_eq_ok_iff, eq_ofDocument_iff]

end Declaration

end TriggerPlan
