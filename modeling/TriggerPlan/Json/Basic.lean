/-!
# JSON values

JSON as a tree. The fields of an object are kept in order. A number is kept as the text it was
written in, since no number has a meaning here.
-/

namespace TriggerPlan

/-- A JSON value. -/
inductive Json where
  | null
  | bool (b : Bool)
  | number (text : String)
  | string (s : String)
  | array (items : List Json)
  | object (fields : List (String × Json))
  deriving Inhabited

namespace Json

/-- The value of a field of an object. -/
def field? (j : Json) (name : String) : Option Json :=
  match j with
  | object fields => fields.lookup name
  | _ => none

def string? : Json → Option String
  | string s => some s
  | _ => none

/-- A text or `null`. -/
def stringOrNull? : Json → Option (Option String)
  | string s => some (some s)
  | null => some none
  | _ => none

def array? : Json → Option (List Json)
  | array items => some items
  | _ => none

/-- An array of texts. -/
def strings? (j : Json) : Option (List String) :=
  j.array?.bind (·.mapM string?)

def ofStrings (ss : List String) : Json :=
  array (ss.map string)

def ofStringOrNull : Option String → Json
  | some s => string s
  | none => null

@[simp] theorem string?_string (s : String) : (string s).string? = some s := rfl

@[simp] theorem stringOrNull?_ofStringOrNull (v : Option String) :
    (ofStringOrNull v).stringOrNull? = some v := by
  cases v <;> rfl

@[simp] theorem strings?_ofStrings (ss : List String) : (ofStrings ss).strings? = some ss := by
  induction ss with
  | nil => rfl
  | cons s ss ih =>
    simp only [ofStrings, strings?, array?, Option.bind_some, List.map_cons, List.mapM_cons,
      string?_string] at ih ⊢
    rw [ih]
    rfl

end Json

end TriggerPlan
