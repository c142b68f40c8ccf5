/-!
# Binary floating-point numbers of 64 bits

A number is its word: a sign bit, an exponent field of eleven bits and a fraction of fifty-two. The
magnitude of a finite number is `significand * 2 ^ exponent`; numbers with exponent field zero are
the zeros and the subnormals.
-/

namespace TriggerPlan

/-- A floating-point number in the 64-bit binary interchange format. -/
structure Binary64 where
  bits : UInt64
  deriving DecidableEq, Repr

namespace Binary64

/-! ## Fields of the word -/

/-- The word without its sign bit. -/
def magnitudeWord (x : Binary64) : Nat :=
  x.bits.toNat % Nat.pow 2 63

/-- Whether the sign bit is set; it is for negative zero too. -/
def isNegative (x : Binary64) : Bool :=
  Nat.pow 2 63 ≤ x.bits.toNat

/-- The least word, apart from its sign, that is no finite number: the infinity. -/
def infinityWord : Nat :=
  0x7ff * Nat.pow 2 52

def isNaN (x : Binary64) : Bool :=
  infinityWord < x.magnitudeWord

def isInfinite (x : Binary64) : Bool :=
  x.magnitudeWord == infinityWord

/-- The number with the given sign and word. -/
def ofMagnitudeWord (negative : Bool) (word : Nat) : Binary64 :=
  ⟨UInt64.ofNat (if negative then Nat.pow 2 63 + word else word)⟩

def nan : Binary64 := ofMagnitudeWord false (0x7ff8 * Nat.pow 2 48)

def infinity (negative : Bool) : Binary64 := ofMagnitudeWord negative infinityWord

def zero (negative : Bool) : Binary64 := ofMagnitudeWord negative 0

/-! ## Magnitude of a finite number -/

/-- The integer factor of the magnitude: the fraction, with the hidden bit unless the exponent field
is zero. -/
def significand (x : Binary64) : Nat :=
  if x.magnitudeWord < Nat.pow 2 52 then x.magnitudeWord
  else Nat.pow 2 52 + x.magnitudeWord % Nat.pow 2 52

/-- The exponent of two in the magnitude. -/
def exponent (x : Binary64) : Int :=
  if x.magnitudeWord < Nat.pow 2 52 then -1074
  else (x.magnitudeWord / Nat.pow 2 52 : Nat) - 1075

end Binary64

end TriggerPlan
