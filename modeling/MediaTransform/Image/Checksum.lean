import MediaTransform.Number.Instances
import MediaTransform.Text.Utf8

/-! # Checksums

* **`Checksum.crc32`** — the cyclic redundancy check of 32 bits over reflected bytes.
* **`Checksum.adler32`** — two running sums modulo the largest prime below 2¹⁶. -/

namespace MediaTransform

namespace Checksum

/-- The generator polynomial, its lowest power in the highest bit. -/
def polynomial : UInt32 := 0xedb88320

/-- One bit of the division by the polynomial. -/
def divideBit (r : UInt32) : UInt32 :=
  if r &&& 1 = 1 then (r >>> 1) ^^^ polynomial else r >>> 1

/-- The remainder after one more byte. -/
def crcStep (r : UInt32) (b : UInt8) : UInt32 :=
  Nat.repeat divideBit 8 (r ^^^ b.toUInt32)

/-- **The cyclic redundancy check of bytes.** -/
def crc32 (b : Bytes) : UInt32 := b.foldl crcStep 0xffffffff ^^^ 0xffffffff

/-- The modulus of the running sums. -/
def adlerModulus : Nat := 65521

/-- The sum of the bytes and the sum of these sums, after one more byte. -/
def adlerStep (s : Nat × Nat) (b : UInt8) : Nat × Nat :=
  let low := (s.1 + b.toNat) % adlerModulus
  (low, (s.2 + low) % adlerModulus)

/-- **The checksum of two running sums.** -/
def adler32 (b : Bytes) : Nat :=
  let s := b.foldl adlerStep (1, 0)
  s.2 * 2 ^ 16 + s.1

end Checksum

end MediaTransform
