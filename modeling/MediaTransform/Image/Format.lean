import MediaTransform.Image.Farbfeld
import MediaTransform.Image.Gif.Reader
import MediaTransform.Image.Icon
import MediaTransform.Image.Jpeg.Reader
import MediaTransform.Image.Pnm
import MediaTransform.Image.Qoi
import MediaTransform.Image.Tiff.Reader
import MediaTransform.Image.Webp.Reader

/-! # Formats of encoded pictures

* **`ImageFormat`** — the formats, and how bytes are recognised (`ImageFormat.recognise`).
* **`ImageFormat.encode`**, **`decode?`** — the file of a picture, and the picture of a file.
* **`ImageFormat.accepts`** — which pictures a format can hold. -/

namespace MediaTransform

/-- **A format of encoded pictures.** -/
inductive ImageFormat where
  | png | jpeg | gif | bmp | tiff | webp | ico | qoi | pnm | farbfeld | avif | dds | hdr | openexr
  deriving DecidableEq, Repr

namespace ImageFormat

/-- The name of a format. -/
def name : ImageFormat → String
  | png => "png"
  | jpeg => "jpeg"
  | gif => "gif"
  | bmp => "bmp"
  | tiff => "tiff"
  | webp => "webp"
  | ico => "ico"
  | qoi => "qoi"
  | pnm => "pnm"
  | farbfeld => "farbfeld"
  | avif => "avif"
  | dds => "dds"
  | hdr => "hdr"
  | openexr => "openexr"

/-- The bytes that a file of a format begins with; any byte may stand for nothing. -/
def signatures : List (List (Option UInt8) × ImageFormat) :=
  [([0x89, 0x50, 0x4e, 0x47, 0x0d, 0x0a, 0x1a, 0x0a].map some, png),
    ([0xff, 0xd8, 0xff].map some, jpeg),
    ((Bytes.ofText "GIF89a").map some, gif),
    ((Bytes.ofText "GIF87a").map some, gif),
    ((Bytes.ofText "RIFF").map some ++ List.replicate 4 none ++ (Bytes.ofText "WEBP").map some, webp),
    ([0x4d, 0x4d, 0x00, 0x2a].map some, tiff),
    ([0x49, 0x49, 0x2a, 0x00].map some, tiff),
    ((Bytes.ofText "DDS ").map some, dds),
    ((Bytes.ofText "BM").map some, bmp),
    ([0x00, 0x00, 0x01, 0x00].map some, ico),
    ((Bytes.ofText "#?RADIANCE").map some, hdr),
    ([some 0, some 0, none, none] ++ (Bytes.ofText "ftypavif").map some, avif),
    ([0x76, 0x2f, 0x31, 0x01].map some, openexr),
    ((Bytes.ofText "qoif").map some, qoi)] ++
  (["P1", "P2", "P3", "P4", "P5", "P6", "P7"].map fun s => ((Bytes.ofText s).map some, pnm)) ++
  [((Bytes.ofText "farbfeld").map some, farbfeld)]

/-- Whether bytes begin with a signature. -/
def matchesSignature : List (Option UInt8) → Bytes → Bool
  | [], _ => true
  | _, [] => false
  | none :: rest, _ :: bytes => matchesSignature rest bytes
  | some b :: rest, c :: bytes => b == c && matchesSignature rest bytes

/-- **The format that bytes begin like.** -/
def recognise (b : Bytes) : Option ImageFormat :=
  (signatures.find? fun s => matchesSignature s.1 b).map (·.2)

/-- **The file of a picture in a format**; a JPEG has a quality. Formats that pictures are only
recognised in have no files here. -/
def encode (f : ImageFormat) (quality : Option Nat) (p : Picture) : Bytes :=
  match f with
  | png => Png.encode p
  | jpeg => Jpeg.encode p (quality.getD Jpeg.usualQuality)
  | gif => Gif.encode p
  | bmp => Bmp.encode p
  | tiff => Tiff.encode p
  | webp => Webp.encode p
  | ico => Icon.encode p
  | qoi => Qoi.encode p
  | pnm => Pnm.encode p
  | farbfeld => Farbfeld.encode p
  | avif | dds | hdr | openexr => []

/-- **The picture of a file in a format.** Some files are refused although they hold a picture: AVIF,
DDS, HDR and EXR; WebP with losses or in several parts; JPEG in several scans or with four channels; and
whatever has values in floating point. -/
def decode? (f : ImageFormat) (b : Bytes) : Option Picture :=
  match f with
  | png => Png.decode? b
  | jpeg => Jpeg.decode? b
  | gif => Gif.decode? b
  | bmp => Bmp.decode? b
  | tiff => Tiff.decode? b
  | ico => Icon.decode? b
  | qoi => Qoi.decode? b
  | pnm => Pnm.decode? b
  | farbfeld => Farbfeld.decode? b
  | webp => Webp.decode? b
  | avif | dds | hdr | openexr => none

/-- Whether pictures are written back in this format, and not as PNG. -/
def writesBack : ImageFormat → Bool
  | png | gif | bmp | tiff | webp | ico => true
  | _ => false

/-- The longest side that is written in a format. A WebP could spell one pixel more, but is taken to
stop here. -/
def longestSide : ImageFormat → Option Nat
  | ico => some 256
  | webp => some 16383
  | gif | jpeg => some 65535
  | _ => none

/-- Whether a format can hold a colour type. -/
def holdsColour (f : ImageFormat) (c : ColourType) : Bool :=
  match f with
  | gif | bmp | webp | ico => !c.deep
  | tiff => c.coloured || !c.hasAlpha
  | _ => true

/-- **Whether a format can hold a picture.** -/
def accepts (f : ImageFormat) (p : Picture) : Bool :=
  f.holdsColour p.colour &&
    match f.longestSide with
    | some side => decide (p.width ≤ side) && decide (p.height ≤ side)
    | none => true

end ImageFormat

end MediaTransform
