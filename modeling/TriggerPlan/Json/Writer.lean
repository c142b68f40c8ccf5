import TriggerPlan.Json.Basic

/-!
# JSON text

Two forms of writing a JSON value: compact, without any space, and pretty, with one item to a line
and two spaces for each level. In a string the quote, the backslash and the characters below U+0020
are escaped, the latter by a letter where JSON has one; every other character stands for itself.
-/

namespace TriggerPlan.Json

/-! ## Strings -/

/-- How one character is written in a string. -/
def escapedChar (c : Char) : String :=
  match c with
  | '"' => "\\\""
  | '\\' => "\\\\"
  | '\x08' => "\\b"
  | '\x0c' => "\\f"
  | '\n' => "\\n"
  | '\r' => "\\r"
  | '\t' => "\\t"
  | _ =>
    if c.toNat < 0x20 then
      "\\u00" ++ String.ofList [Nat.digitChar (c.toNat / 16), Nat.digitChar (c.toNat % 16)]
    else String.singleton c

/-- A string with its quotes. -/
def writeString (s : String) : String :=
  "\"" ++ String.join (s.toList.map escapedChar) ++ "\""

/-! ## Compact form -/

mutual

/-- The value without any space. -/
def compact : Json → String
  | null => "null"
  | bool b => if b then "true" else "false"
  | number text => text
  | string s => writeString s
  | array items => "[" ++ ",".intercalate (compactItems items) ++ "]"
  | object fields => "\x7b" ++ ",".intercalate (compactFields fields) ++ "\x7d"

/-- The items of an array, each without any space. -/
def compactItems : List Json → List String
  | [] => []
  | j :: js => compact j :: compactItems js

/-- The fields of an object, each without any space. -/
def compactFields : List (String × Json) → List String
  | [] => []
  | (k, v) :: fields => (writeString k ++ ":" ++ compact v) :: compactFields fields

end

/-! ## Pretty form -/

/-- A line break and the indentation of a level. -/
def newLine (level : Nat) : String :=
  "\n" ++ String.ofList (List.replicate (2 * level) ' ')

/-- Items between two brackets, one to a line, inside a level. No item gives the brackets alone. -/
def block (opening closing : String) (level : Nat) (items : List String) : String :=
  if items.isEmpty then opening ++ closing
  else
    opening ++ newLine (level + 1) ++ ("," ++ newLine (level + 1)).intercalate items ++
      newLine level ++ closing

mutual

/-- The value with one item to a line, inside a level of indentation. -/
def prettyAt (level : Nat) : Json → String
  | null => "null"
  | bool b => if b then "true" else "false"
  | number text => text
  | string s => writeString s
  | array items => block "[" "]" level (prettyItems (level + 1) items)
  | object fields => block "\x7b" "\x7d" level (prettyFields (level + 1) fields)

/-- The items of an array, each in pretty form. -/
def prettyItems (level : Nat) : List Json → List String
  | [] => []
  | j :: js => prettyAt level j :: prettyItems level js

/-- The fields of an object, each in pretty form. -/
def prettyFields (level : Nat) : List (String × Json) → List String
  | [] => []
  | (k, v) :: fields => (writeString k ++ ": " ++ prettyAt level v) :: prettyFields level fields

end

/-- The value with one item to a line. -/
def pretty (j : Json) : String :=
  prettyAt 0 j

end TriggerPlan.Json
