/-!
# Adler-32

The checksum of a byte sequence: two sums modulo 65521, the first of the bytes, the second of the
first sums so far, packed into one number.
-/

namespace TriggerPlan

/-- The modulus of both sums, the largest prime below `2 ^ 16`. -/
def adlerModulus : Nat := 65521

/-- The two sums after one more byte. -/
def adlerStep (sums : Nat × Nat) (byte : UInt8) : Nat × Nat :=
  let a := (sums.1 + byte.toNat) % adlerModulus
  (a, (sums.2 + a) % adlerModulus)

/-- The Adler-32 checksum. -/
def adler32 (bytes : ByteArray) : Nat :=
  let (a, b) := bytes.foldl adlerStep (1, 0)
  b * Nat.pow 2 16 + a

end TriggerPlan
