import MediaTransform.Image.Bits

/-! # Reading bits

* **`Bits.Source`** — bytes with a position, read bit by bit, the lowest bit of each byte first.
* **`Bits.Reading`** — steps of reading; **`Bits.read`** reads a number, **`Bits.align`** goes on at
  the next whole byte. -/

namespace MediaTransform

namespace Bits

/-- **Bytes with a position**, in bits. -/
structure Source where
  bytes : Array UInt8
  position : Nat

/-- The source at the start of bytes. -/
def Source.ofBytes (b : Bytes) : Source := ⟨b.toArray, 0⟩

/-- A step of reading, which may fail. -/
abbrev Reading (α : Type) := StateT Source Option α

/-- The bit at a position. -/
def Source.bitAt (s : Source) (position : Nat) : Nat :=
  (s.bytes.getD (position / 8) 0).toNat / 2 ^ (position % 8) % 2

/-- **So many bits as a number**, the lowest first. -/
def read (n : Nat) : Reading Nat := fun s =>
  if 8 * s.bytes.size < s.position + n then none
  else
    some ((List.range n).foldr (fun i value => s.bitAt (s.position + i) + 2 * value) 0,
      { s with position := s.position + n })

/-- Goes on at the next whole byte. -/
def align : Reading Unit := fun s => some ((), { s with position := (s.position + 7) / 8 * 8 })

end Bits

end MediaTransform
