import MediaTransform.Number.Instances
import MediaTransform.Text.Utf8

/-! # Rows of bits

* **`Bits.ofNat`** — the lowest bits of a number, the lowest first.
* **`Bits.bytes`** — bits packed into bytes, the first bit of each byte in its lowest place. -/

namespace MediaTransform

/-- **A row of bits.** -/
abbrev Bits := List Bool

namespace Bits

/-- **The lowest `width` bits of a number**, the lowest first. -/
def ofNat : Nat → Nat → Bits
  | 0, _ => []
  | width + 1, n => (n % 2 == 1) :: ofNat width (n / 2)

/-- The number that bits stand for, the lowest first. -/
def toNat : Bits → Nat
  | [] => 0
  | b :: rest => (if b then 1 else 0) + 2 * toNat rest

/-- **Bits packed into bytes**; the last byte is filled up with zeros. -/
def bytes : Bits → Bytes
  | [] => []
  | b :: rest => (toNat ((b :: rest).take 8)).toUInt8 :: bytes (rest.drop 7)
  termination_by bits => bits.length
  decreasing_by simp only [List.length_drop, List.length_cons]; omega

end Bits

end MediaTransform
