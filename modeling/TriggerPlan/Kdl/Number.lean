import TriggerPlan.Binary64.Nearest
import TriggerPlan.Kdl.Document
import TriggerPlan.Kdl.Reader
import TriggerPlan.Text.Hex

/-!
# Numbers

Integers in decimal, or in base 16, 8 or 2 after a mark, and decimal numbers with a point or an
exponent. Underscores may stand after the first digit of a number. Every part of a number has to be
below `2 ^ 127` when read as an integer.
-/

namespace TriggerPlan.Kdl

/-- One more than the largest integer that a part of a number may spell. -/
def integerBound : Nat := Nat.pow 2 127

/-- The number that digits spell in a base. -/
def valueOfDigits (base : Nat) (ds : List Nat) : Nat :=
  ds.foldl (fun n d => base * n + d) 0

/-- The value of a digit of the base. -/
def digitOfBase? (base : Nat) (c : Char) : Option Nat :=
  (Text.hexDigit? c).filter (· < base)

namespace Reader

/-- Digits of a base, of which there is at least one, with underscores after the first. -/
def digits (base : Nat) : Reader (List Nat) := do
  let first ← charWhere fun c => (digitOfBase? base c).isSome
  let rest ← charsWhile fun c => (digitOfBase? base c).isSome || c == '_'
  return (first :: rest).filterMap (digitOfBase? base)

/-- Digits of a base whose value is in range. -/
def boundedDigits (base : Nat) : Reader (List Nat) := do
  let ds ← digits base
  if valueOfDigits base ds < integerBound then return ds else failure

/-- Whether there is a minus sign; a plus sign may be there as well as none. -/
def sign : Reader Bool :=
  (do char '-'; return true) <|> (do char '+'; return false) <|> pure false

/-- The value of an integer with the given sign. -/
def signed (negative : Bool) (n : Nat) : Int :=
  if negative then -(n : Int) else n

/-- An integer in a base other than ten, after the mark of the base. -/
def basedInteger : Reader Value := do
  let negative ← sign
  char '0'
  let mark ← charWhere fun c => "xXoObB".toList.contains c
  let base := if mark = 'x' || mark = 'X' then 16 else if mark = 'o' || mark = 'O' then 8 else 2
  let ds ← boundedDigits base
  return .integer (signed negative (valueOfDigits base ds))

/-- The exponent of a decimal number. -/
def exponent : Reader Int := do
  let _ ← charWhere fun c => c == 'e' || c == 'E'
  let negative ← sign
  let ds ← boundedDigits 10
  return signed negative (valueOfDigits 10 ds)

/-- A decimal number. It is an integer if it has neither a point nor an exponent. -/
def decimal : Reader Value := do
  let negative ← sign
  let whole ← boundedDigits 10
  let fraction ← optionally (do char '.'; boundedDigits 10)
  let exponent ← optionally exponent
  if fraction.isNone && exponent.isNone then
    return .integer (signed negative (valueOfDigits 10 whole))
  let fraction := fraction.getD []
  return .float (.ofDecimal negative (valueOfDigits 10 (whole ++ fraction))
    (exponent.getD 0 - fraction.length))

/-- A number in any form. -/
def number : Reader Value :=
  basedInteger <|> decimal

end Reader

end TriggerPlan.Kdl
