/-!
# Bytes in hexadecimal

Two hexadecimal digits for each byte, in either case, with nothing between them.
-/

namespace TriggerPlan.Text

/-- The value of a hexadecimal digit in either case. -/
def hexDigit? (c : Char) : Option Nat :=
  if '0' ≤ c && c ≤ '9' then some (c.toNat - '0'.toNat)
  else if 'a' ≤ c && c ≤ 'f' then some (c.toNat - 'a'.toNat + 10)
  else if 'A' ≤ c && c ≤ 'F' then some (c.toNat - 'A'.toNat + 10)
  else none

/-- The bytes that the digits spell, appended to those read before them. An odd digit at the end and
any character that is no digit are refused. -/
def hexBytes? (done : ByteArray) : List Char → Option ByteArray
  | [] => some done
  | [_] => none
  | a :: b :: cs =>
    match hexDigit? a, hexDigit? b with
    | some x, some y => hexBytes? (done.push (UInt8.ofNat (16 * x + y))) cs
    | _, _ => none

/-- The bytes that a text of hexadecimal digits spells. -/
def bytesOfHex? (s : String) : Option ByteArray :=
  hexBytes? ByteArray.empty s.toList

end TriggerPlan.Text
