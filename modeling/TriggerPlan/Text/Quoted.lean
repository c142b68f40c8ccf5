import TriggerPlan.Text.GraphemeExtend
import TriggerPlan.Text.Unprintable

/-!
# Quoted text

The form in which a text is shown in a message: in double quotes, with an escape for each character
that would not show as itself. Tab, line feed, carriage return, NUL, the double quote and the
backslash have short escapes; every other character that has no printed form, or that would be drawn
together with the one before it, is given by its code point in lower-case hexadecimal.
-/

namespace TriggerPlan.Text

/-- The escape of a code point, `\u` and its hexadecimal digits in braces, without leading zeros. -/
def codePointEscape (c : Char) : String :=
  "\\u\x7b" ++ String.ofList (Nat.toDigits 16 c.toNat) ++ "\x7d"

/-- How one character is shown between double quotes. -/
def quotedChar (c : Char) : String :=
  match c with
  | '\x00' => "\\0"
  | '\t' => "\\t"
  | '\r' => "\\r"
  | '\n' => "\\n"
  | '\\' => "\\\\"
  | '"' => "\\\""
  | _ => if extendsGrapheme c || isUnprintable c then codePointEscape c else String.singleton c

/-- The text in double quotes, escaped. -/
def quoted (s : String) : String :=
  "\"" ++ String.join (s.toList.map quotedChar) ++ "\""

theorem quoted_empty : quoted "" = "\"\"" := by
  simp [quoted, String.join]

end TriggerPlan.Text
