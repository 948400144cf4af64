import MediaTransform.Image.ByteOrder
import MediaTransform.Image.Picture

/-! # The farbfeld format

Sixteen bits a channel, with colour and alpha, behind a short header.

* **`Farbfeld.encode`** — the file of a picture.
* **`Farbfeld.decode?`** — the picture of a file. -/

namespace MediaTransform

namespace Farbfeld

/-- The bytes that every file begins with. -/
def signature : Bytes := Bytes.ofText "farbfeld"

/-- Red, green, blue and alpha, 16 bits each. -/
def colour : ColourType := ⟨true, true, true⟩

/-- **The file of a picture.** -/
def encode (p : Picture) : Bytes :=
  signature ++ Bytes.bigEndian 4 p.width ++ Bytes.bigEndian 4 p.height ++
    p.grid.cells.toList.flatMap fun pixel => (pixel.channels colour).flatMap (Bytes.bigEndian 2)

/-- **The picture of a file.** -/
def decode? (b : Bytes) : Option Picture := do
  let b ← Bytes.after? signature b
  let (w, b) ← Bytes.big? 4 b
  let (h, b) ← Bytes.big? 4 b
  let (raster, _) ← Bytes.cut? (8 * w * h) b
  return .ofSamples colour w h (Bytes.pairs raster).toArray

end Farbfeld

end MediaTransform
