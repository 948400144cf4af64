import MediaTransform.Number.Instances
import MediaTransform.Text.Utf8

/-! # Numbers in bytes

* **`Bytes.littleEndian`**, **`bigEndian`** — a number in so many bytes, the lowest or the highest
  first.
* **`Bytes.ofLittleEndian`**, **`ofBigEndian`** — the number that bytes stand for
  (`ofLittleEndian_littleEndian`).
* **`Bytes.cut?`** — the first bytes and the rest, where there are so many; **`big?`** — a number and
  the rest (`big?_bigEndian_append`). -/

namespace MediaTransform

namespace Bytes

/-- **A number in `width` bytes**, the lowest first; higher parts of the number are left out. -/
def littleEndian : Nat → Nat → Bytes
  | 0, _ => []
  | width + 1, n => n.toUInt8 :: littleEndian width (n / 256)

/-- **A number in `width` bytes**, the highest first. -/
def bigEndian (width n : Nat) : Bytes := (littleEndian width n).reverse

/-- **The number of bytes**, the lowest first. -/
def ofLittleEndian : Bytes → Nat
  | [] => 0
  | b :: rest => b.toNat + 256 * ofLittleEndian rest

/-- **The number of bytes**, the highest first. -/
def ofBigEndian (b : Bytes) : Nat := ofLittleEndian b.reverse

@[simp] theorem length_littleEndian (width n : Nat) : (littleEndian width n).length = width := by
  induction width generalizing n with
  | zero => rfl
  | succ width ih => simp [littleEndian, ih]

@[simp] theorem length_bigEndian (width n : Nat) : (bigEndian width n).length = width := by
  simp [bigEndian]

theorem ofLittleEndian_littleEndian (width n : Nat) :
    ofLittleEndian (littleEndian width n) = n % 256 ^ width := by
  induction width generalizing n with
  | zero => simp [littleEndian, ofLittleEndian, Nat.mod_one]
  | succ width ih =>
    simp only [littleEndian, ofLittleEndian, ih, Nat.pow_succ', Nat.mod_mul]
    simp

/-- **The first `n` bytes and the rest**, if there are so many. -/
def cut? (n : Nat) (b : Bytes) : Option (Bytes × Bytes) :=
  let first := b.take n
  if first.length = n then some (first, b.drop n) else none

theorem cut?_append (first rest : Bytes) :
    cut? first.length (first ++ rest) = some (first, rest) := by
  rw [cut?, List.take_left, List.drop_left, if_pos rfl]

/-- A number of `width` bytes at the front, the lowest first, and the rest. -/
def little? (width : Nat) (b : Bytes) : Option (Nat × Bytes) :=
  (b.cut? width).map fun (first, rest) => (ofLittleEndian first, rest)

/-- A number of `width` bytes at the front, the highest first, and the rest. -/
def big? (width : Nat) (b : Bytes) : Option (Nat × Bytes) :=
  (b.cut? width).map fun (first, rest) => (ofBigEndian first, rest)

/-- **A number is read back** as far as its bytes hold it. -/
theorem big?_bigEndian_append (width n : Nat) (rest : Bytes) :
    big? width (bigEndian width n ++ rest) = some (n % 256 ^ width, rest) := by
  have hcut := cut?_append (bigEndian width n) rest
  rw [length_bigEndian] at hcut
  have hnumber : ofBigEndian (bigEndian width n) = n % 256 ^ width := by
    rw [ofBigEndian, bigEndian, List.reverse_reverse, ofLittleEndian_littleEndian]
  rw [big?, hcut, ← hnumber]
  rfl

/-- Numbers of two bytes each, the highest first. -/
def pairs : Bytes → List Nat
  | high :: low :: rest => (256 * high.toNat + low.toNat) :: pairs rest
  | _ => []

/-- The rest after some first bytes, if the bytes begin with them. -/
def after? (first b : Bytes) : Option Bytes :=
  if first.isPrefixOf b then some (b.drop first.length) else none

theorem after?_append (first rest : Bytes) : after? first (first ++ rest) = some rest := by
  rw [after?, if_pos (List.isPrefixOf_iff_prefix.2 (List.prefix_append _ _)), List.drop_left]

end Bytes

end MediaTransform
