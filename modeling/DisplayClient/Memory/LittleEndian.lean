/-!
# Little-endian numbers

Numbers of more than one byte are stored with the least significant byte
first.
-/

namespace DisplayClient.LittleEndian

/-- The number that `bs` hold. -/
def value : List UInt8 → Nat
  | [] => 0
  | b :: bs => b.toNat + 256 * value bs

/-- The `width` low bytes of `n`. -/
def bytes : Nat → Nat → List UInt8
  | 0, _ => []
  | width + 1, n => UInt8.ofNat n :: bytes width (n / 256)

end DisplayClient.LittleEndian
