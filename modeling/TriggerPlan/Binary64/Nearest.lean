import TriggerPlan.Binary64.Basic

/-!
# Reading decimal numbers

A decimal number is read as the nearest floating-point number; of two equally near ones it is the
one with the even significand. What is too large becomes an infinity, what is too small a zero. All
arithmetic is exact, on natural numbers, and huge exponents are decided without powers of that size.
-/

namespace TriggerPlan.Binary64

/-! ## Quotients -/

/-- The integer nearest to `n / d`, the even one at a midpoint. -/
def roundHalfEven (n d : Nat) : Nat :=
  let q := n / d
  if d < 2 * (n % d) || (2 * (n % d) == d && q % 2 == 1) then q + 1 else q

/-- The fraction `n / d` multiplied by `2 ^ k`, as numerator and denominator. -/
def scaleByTwo (n d : Nat) (k : Int) : Nat × Nat :=
  if 0 ≤ k then (n * Nat.pow 2 k.toNat, d) else (n, d * Nat.pow 2 (-k).toNat)

/-- The exponent `e` with `2 ^ e ≤ n / d < 2 ^ (e + 1)`, for positive `n` and `d`. -/
def floorLogTwo (n d : Nat) : Int :=
  let k : Int := (Nat.log2 n : Int) - (Nat.log2 d : Int)
  let (a, b) := scaleByTwo n d (-k)
  if a < b then k - 1 else k

/-- The floating-point number nearest to `n / d`, for positive `n` and `d`. The significand is
rounded at the last place that the exponent leaves; a carry out of it raises the exponent, because
the word counts the exponent in units of `2 ^ 52`. -/
def ofQuotient (negative : Bool) (n d : Nat) : Binary64 :=
  let place := max (floorLogTwo n d - 52) (-1074)
  let (a, b) := scaleByTwo n d (-place)
  let word := (place + 1074).toNat * Nat.pow 2 52 + roundHalfEven a b
  if word < infinityWord then ofMagnitudeWord negative word else infinity negative

/-! ## Decimal numbers -/

/-- The floating-point number nearest to `digits * 10 ^ exponent`. Beyond `10 ^ 400` and below
`10 ^ (-400)` the answer needs no division. -/
def ofDecimal (negative : Bool) (digits : Nat) (exponent : Int) : Binary64 :=
  if digits = 0 then zero negative
  else if 400 < exponent then infinity negative
  else if exponent < -400 - ((Nat.log2 digits : Int) + 1) then zero negative
  else if 0 ≤ exponent then ofQuotient negative (digits * Nat.pow 10 exponent.toNat) 1
  else ofQuotient negative digits (Nat.pow 10 (-exponent).toNat)

/-! ## Decimal text -/

/-- The number that a list of decimal digits spells, most significant digit first. -/
def digitsValue (ds : List Char) : Nat :=
  ds.foldl (fun n c => 10 * n + (c.toNat - '0'.toNat)) 0

/-- The exponent after the letter `e`: decimal digits, at least one, with an optional sign. -/
def exponentOfText? (cs : List Char) : Option Int :=
  let (negative, ds) :=
    match cs with
    | '+' :: r => (false, r)
    | '-' :: r => (true, r)
    | _ => (false, cs)
  if ds.isEmpty || !ds.all Char.isDigit then none
  else if negative then some (-(digitsValue ds : Int)) else some (digitsValue ds)

/-- An unsigned number in decimal: digits with an optional point among them and an optional exponent
after them. -/
def ofUnsignedText? (negative : Bool) (cs : List Char) : Option Binary64 :=
  let whole := cs.takeWhile Char.isDigit
  let rest := cs.dropWhile Char.isDigit
  let (fraction, rest) :=
    match rest with
    | '.' :: r => (r.takeWhile Char.isDigit, r.dropWhile Char.isDigit)
    | _ => ([], rest)
  if whole.isEmpty && fraction.isEmpty then none
  else
    let value (e : Int) :=
      ofDecimal negative (digitsValue (whole ++ fraction)) (e - fraction.length)
    match rest with
    | [] => some (value 0)
    | 'e' :: r | 'E' :: r => (exponentOfText? r).map value
    | _ => none

/-- Reads decimal text, `inf` or `NaN`, with an optional sign. -/
def ofText? (s : String) : Option Binary64 :=
  let (negative, cs) :=
    match s.toList with
    | '+' :: r => (false, r)
    | '-' :: r => (true, r)
    | cs => (false, cs)
  if cs = "inf".toList then some (infinity negative)
  else if cs = "NaN".toList then some nan
  else ofUnsignedText? negative cs

end TriggerPlan.Binary64
