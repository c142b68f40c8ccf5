import TriggerPlan.Error
import TriggerPlan.Settings.Key

/-!
# Version history sizes

A size is a natural number below `2 ^ 32`. As text it is written in decimal, with an optional plus
sign and any number of leading zeros.
-/

namespace TriggerPlan

/-- Why a text is no size. -/
inductive SizeError where
  | empty
  | invalidDigit
  | tooLarge
  deriving DecidableEq, Repr

def SizeError.message : SizeError → String
  | empty => "cannot parse integer from empty string"
  | invalidDigit => "invalid digit found in string"
  | tooLarge => "number too large to fit in target type"

namespace Size

/-- One more than the largest size. -/
def bound : Nat := UInt32.size

/-- Reads the digits that follow those of `n`. The text is given up at the first character that is
no digit or that takes the number beyond the largest size. -/
def readDigits (n : Nat) : List Char → Except SizeError Nat
  | [] => .ok n
  | c :: cs =>
    if c.isDigit then
      let next := 10 * n + (c.toNat - '0'.toNat)
      if next < bound then readDigits next cs else .error .tooLarge
    else .error .invalidDigit

/-- Reads a size in decimal, with an optional plus sign. A sign alone is no number. -/
def read (s : String) : Except SizeError UInt32 :=
  match s.toList with
  | [] => .error .empty
  | ['+'] => .error .invalidDigit
  | '+' :: cs => UInt32.ofNat <$> readDigits 0 cs
  | cs => UInt32.ofNat <$> readDigits 0 cs

/-- Reads the size that the entity at `path` is given as text. -/
def ofText (path text : String) : Except Error UInt32 :=
  match read text with
  | .ok n => .ok n
  | .error e =>
    .error (.invalidConfiguration path SettingKey.versionHistorySize.name text
      ("not a non-negative integer (" ++ e.message ++ ")"))

end Size

end TriggerPlan
