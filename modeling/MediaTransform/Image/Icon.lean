import MediaTransform.Image.Bmp.Reader
import MediaTransform.Image.Png.Reader

/-! # The icon format

A list of pictures, each nearly a file of its own, of which the one with the most bits and pixels counts.

* **`Icon.encode`** — the file of one picture.
* **`Icon.decode?`** — the picture of a file. -/

namespace MediaTransform

namespace Icon

/-- The bytes that every file begins with. -/
def signature : Bytes := [0, 0, 1, 0]

/-- Where the picture of a file with one picture begins. -/
def firstStart : Nat := 22

/-- The number of bits of a pixel. -/
def pixelBits (c : ColourType) : Nat := 8 * c.depth * c.channelCount

/-- **The file of one picture**; a side of 256 counts as zero. -/
def encode (p : Picture) : Bytes :=
  let contents := Png.encode p
  signature ++ Bytes.littleEndian 2 1 ++ [p.width.toUInt8, p.height.toUInt8, 0, 0] ++
    Bytes.littleEndian 2 0 ++ Bytes.littleEndian 2 (pixelBits p.colour) ++
    Bytes.littleEndian 4 contents.length ++ Bytes.littleEndian 4 firstStart ++ contents

/-- What the list says of a picture. -/
structure Entry where
  width : Nat
  height : Nat
  bits : Nat
  size : Nat
  start : Nat

/-- A side in the list. -/
def sideOf (n : Nat) : Nat := if n = 0 then 256 else n

/-- So many entries of the list. -/
def entries? : Nat → Bytes → Option (List Entry)
  | 0, _ => some []
  | n + 1, b => do
    let (w, b) ← Bytes.little? 1 b
    let (h, b) ← Bytes.little? 1 b
    let (_, b) ← Bytes.cut? 4 b
    let (bits, b) ← Bytes.little? 2 b
    let (size, b) ← Bytes.little? 4 b
    let (start, b) ← Bytes.little? 4 b
    return ⟨sideOf w, sideOf h, bits, size, start⟩ :: (← entries? n b)

/-- Whether an entry counts more than another one. -/
def Entry.beats (e other : Entry) : Bool :=
  other.bits < e.bits || (other.bits == e.bits && other.width * other.height < e.width * e.height)

/-- The entry that counts: the last one, unless another one beats it. -/
def best? (l : List Entry) : Option Entry := do
  let last ← l.getLast?
  return l.dropLast.foldl (fun best e => if e.beats best then e else best) last

/-- The picture at the front of bytes: a PNG with colour and alpha, or the contents of a BMP with a
mask. -/
def contents? (size : Nat) (b : Bytes) : Option Picture :=
  if Png.signature.isPrefixOf b then (Png.decode? b).filter (·.colour = .rgba8)
  else Bmp.inIcon? b size

/-- **The picture of a file**, which must have the sides of its entry. -/
def decode? (b : Bytes) : Option Picture := do
  let list ← Bytes.after? signature b
  let (count, list) ← Bytes.little? 2 list
  let e ← best? (← entries? count list)
  let p ← contents? e.size (b.drop e.start)
  guard (min p.width 256 = e.width ∧ min p.height 256 = e.height)
  return p

end Icon

end MediaTransform
