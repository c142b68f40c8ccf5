import TriggerPlan.Binary64.Basic

/-!
# Shortest decimal text

A finite number is written with the fewest significant digits that read back to it. Of several such
decimals the nearest is taken, and of two equally near ones the larger. The digits are written in
full, never with an exponent, and a whole number has no point.

The decimals that read back to a number fill an interval around it. For one digit, two digits and so
on, the two decimals of that many digits next to the number are tested against the interval; if any
decimal of that many digits lies in it, so does one of these two.
-/

namespace TriggerPlan.Binary64

/-! ## The interval of decimals that read back -/

/-- A positive number as the fraction `value / unit`, with the ends `low / unit` and `high / unit` of
the interval of decimals that read back to it. The ends belong to it if `closed` holds. -/
structure Interval where
  low : Nat
  value : Nat
  high : Nat
  unit : Nat
  closed : Bool

/-- The interval of a finite number other than zero. Its ends lie halfway to the neighbours; at a
power of two the neighbour below is twice as near. They belong to it if the significand is even,
since that is where a tie is rounded to. -/
def interval (x : Binary64) : Interval :=
  let m := x.significand
  let below := if m = Nat.pow 2 52 && x.exponent != -1074 then 1 else 2
  let e := x.exponent - 2
  let scale := if 0 ≤ e then Nat.pow 2 e.toNat else 1
  let unit := if 0 ≤ e then 1 else Nat.pow 2 (-e).toNat
  ⟨(4 * m - below) * scale, 4 * m * scale, (4 * m + 2) * scale, unit, m % 2 == 0⟩

/-- Whether the decimal `c / d` lies in the interval. -/
def Interval.admits (i : Interval) (c d : Nat) : Bool :=
  if i.closed then i.low * d ≤ c * i.unit && c * i.unit ≤ i.high * d
  else i.low * d < c * i.unit && c * i.unit < i.high * d

/-! ## Digits -/

/-- How many decimal digits a natural number has. -/
def digitCount (n : Nat) : Nat :=
  (Nat.toDigits 10 n).length

/-- The number of places before the decimal point of `n / d`: the least `k` with `n / d < 10 ^ k`,
which is negative if zeros follow the point. -/
def decimalPlaces (n d : Nat) : Int :=
  if d ≤ n then digitCount (n / d) else 1 - (digitCount ((d - 1) / n) : Int)

/-- A decimal, `digits * 10 ^ exponent`. -/
structure Decimal where
  digits : Nat
  exponent : Int
  deriving DecidableEq, Repr

/-- The decimal of `count` significant digits that is nearest to the value of the interval, if one
of the two next to that value lies in the interval. -/
def Interval.decimalOf? (i : Interval) (count : Nat) : Option Decimal :=
  let places := decimalPlaces i.value i.unit
  let e := places - (count : Int)
  -- `value / unit` in units of the last digit, as the fraction `a / b`
  let a := if 0 ≤ e then i.value else i.value * Nat.pow 10 (-e).toNat
  let b := if 0 ≤ e then i.unit * Nat.pow 10 e.toNat else i.unit
  let admits (c : Nat) :=
    if 0 ≤ e then i.admits (c * Nat.pow 10 e.toNat) 1 else i.admits c (Nat.pow 10 (-e).toNat)
  let lower := a / b
  let decimal (c : Nat) : Decimal := if c = Nat.pow 10 count then ⟨1, places⟩ else ⟨c, e⟩
  match admits lower, admits (lower + 1) with
  | true, true => some (decimal (if 2 * (a % b) < b then lower else lower + 1))
  | true, false => some (decimal lower)
  | false, true => some (decimal (lower + 1))
  | false, false => none

/-- The decimal of fewest digits that reads back to a finite number other than zero. Seventeen
digits always do. -/
def shortest (x : Binary64) : Decimal :=
  ((List.range 17).findSome? fun n => x.interval.decimalOf? (n + 1)).getD ⟨0, 0⟩

/-! ## Text -/

/-- A decimal written in full, with a point only if digits follow it. -/
def Decimal.positional (d : Decimal) : String :=
  let ds := Nat.toDigits 10 d.digits
  if 0 ≤ d.exponent then String.ofList (ds ++ List.replicate d.exponent.toNat '0')
  else
    let after := (-d.exponent).toNat
    let padded := List.replicate (after + 1 - ds.length) '0' ++ ds
    let before := padded.length - after
    String.ofList (padded.take before ++ '.' :: padded.drop before)

/-- The text of a number: `NaN`, `inf`, or the shortest decimal, with a minus sign for a set sign
bit. -/
def toText (x : Binary64) : String :=
  if x.isNaN then "NaN"
  else
    let sign := if x.isNegative then "-" else ""
    if x.isInfinite then sign ++ "inf"
    else if x.significand = 0 then sign ++ "0"
    else sign ++ x.shortest.positional

end TriggerPlan.Binary64
