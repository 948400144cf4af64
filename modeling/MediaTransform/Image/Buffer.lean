import MediaTransform.Error
import MediaTransform.Image.Format

/-! # Encoded pictures

The contents of a file are either bytes as they were found or a picture in a format. A picture keeps
its pixels through encoding and decoding, so an encoded picture holds the picture itself.

* **`Encoded`** — a picture in a format; `Encoded.picture?` is what decoding gives.
* **`Buffer`** — the contents of a file; `Buffer.decode`, `encode`, `encodeJpeg`, `encodePng`. -/

namespace MediaTransform

/-! ## (1) Encoded pictures -/

/-- **A picture in a format.** -/
structure Encoded where
  format : ImageFormat
  picture : Picture
  /-- The quality of a JPEG. -/
  quality : Option Nat

namespace Encoded

/-- A grey picture with its grey three times, and alpha only if `alpha` says so. -/
def inColour (alpha : Bool) (p : Picture) : Picture :=
  if p.colour.coloured then p else if alpha && p.colour.hasAlpha then p.toRgba8 else p.toRgb8

/-- **What decoding gives**: an icon is read only with colour and alpha, a GIF gives the colours of its
table, a JPEG what was kept of the picture, BMP and WebP give grey as a colour, and all other formats
give the picture as it was written. -/
def picture? (e : Encoded) : Option Picture :=
  match e.format with
  | .ico => if e.picture.colour = .rgba8 then some e.picture else none
  | .gif => some (Gif.restored e.picture)
  | .jpeg => some (Jpeg.restored e.picture (e.quality.getD Jpeg.usualQuality))
  | .bmp => some (inColour false e.picture)
  | .webp => some (inColour true e.picture)
  | _ => some e.picture

/-- **The bytes of the file.** -/
def bytes (e : Encoded) : Bytes := e.format.encode e.quality e.picture

/-- **The encoded picture that bytes are**, if their beginning says so and they can be decoded. -/
def ofBytes? (b : Bytes) : Option Encoded := do
  let format ← ImageFormat.recognise b
  let picture ← format.decode? b
  return ⟨format, picture, if format = .jpeg then Jpeg.quality? b else none⟩

end Encoded

/-! ## (2) Files -/

/-- **The contents of a file.** -/
inductive Buffer where
  /-- Bytes as they were found. -/
  | bytes (b : Bytes)
  | encoded (e : Encoded)

namespace Buffer

instance : Inhabited Buffer := ⟨.bytes []⟩

/-- The bytes of a file, for programs that read it as they find it. -/
def toBytes : Buffer → Bytes
  | bytes b => b
  | encoded e => e.bytes

/-- A picture that was decoded, and the format it had. -/
structure Decoded where
  picture : Picture
  format : ImageFormat

/-- **The encoded picture of a file**, if it is one. -/
def encoded? : Buffer → Option Encoded
  | bytes b => Encoded.ofBytes? b
  | encoded e => some e

/-- **Decoding for an operation.** -/
def decode (op : String) (b : Buffer) : Except Error Decoded :=
  match b with
  | bytes raw =>
    match ImageFormat.recognise raw with
    | none => .error (.operation op "unrecognised image data: no known signature")
    | some _ =>
      match Encoded.ofBytes? raw with
      | some e => .ok ⟨e.picture, e.format⟩
      | none => .error (.operation op "failed to decode image: no picture after the signature")
  | encoded e =>
    match e.picture? with
    | some p => .ok ⟨p, e.format⟩
    | none => .error (.operation op "failed to decode image: not a picture with colour and alpha")

/-- The picture as a JPEG of a quality. -/
def encodeJpeg (op : String) (p : Picture) (quality : Nat) : Except Error Buffer :=
  if ImageFormat.jpeg.accepts p then
    .ok (.encoded ⟨.jpeg, p.toRgb8, some (max 1 (min quality 100))⟩)
  else .error (.operation op "failed to encode JPEG: a side is too long")

/-- The picture as a PNG. -/
def encodePng (p : Picture) : Buffer := .encoded ⟨.png, p, none⟩

/-- The quality of a JPEG that is written back without being asked for one. -/
def reencodedQuality : Nat := 90

/-- **The picture written back in the format that its source had**, or as PNG where that format
cannot be written or cannot hold the picture. -/
def encode (op : String) (p : Picture) (format : ImageFormat) : Except Error Buffer :=
  if format = .jpeg then encodeJpeg op p reencodedQuality
  else if format.writesBack ∧ format.accepts p then .ok (.encoded ⟨format, p, none⟩)
  else .ok (encodePng p)

end Buffer

end MediaTransform
