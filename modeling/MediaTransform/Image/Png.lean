import MediaTransform.Image.Deflate
import MediaTransform.Image.Picture

/-! # The PNG format

* **`Png.filtered`** — a line as differences to its neighbours, with the filter that leaves least.
* **`Png.encode`** — the file of a picture: its header, the compressed lines and the end. -/

namespace MediaTransform

namespace Png

/-! ## (1) Lines -/

/-- The stored bytes of a channel. -/
def channelBytes (deep : Bool) (v : Nat) : Bytes :=
  if deep then [(v / 256).toUInt8, v.toUInt8] else [v.toUInt8]

/-- The stored bytes of a pixel. -/
def pixelBytes (c : ColourType) (p : Pixel) : Bytes :=
  (p.channels c).flatMap (channelBytes c.deep)

/-- The lines of a picture. -/
def lines (p : Picture) : List Bytes :=
  (List.range p.height).map fun y =>
    (List.range p.width).flatMap fun x => pixelBytes p.colour (p.grid.get default x y)

/-- The bytes of a pixel. -/
def stride (c : ColourType) : Nat := (pixelBytes c default).length

/-- How a byte is predicted from the one to its left, the one above and the one above to the
left. -/
inductive Filter where
  | left
  | above
  | average
  | nearest
  deriving DecidableEq, Repr

namespace Filter

/-- The number of a filter. -/
def number : Filter → UInt8
  | left => 1
  | above => 2
  | average => 3
  | nearest => 4

/-- The distance of two naturals. -/
def distance (a b : Nat) : Nat := a - b + (b - a)

/-- The neighbour that is nearest to `a + b - c`; the first one of several. -/
def nearestOf (a b c : Nat) : Nat :=
  let (toA, toB, toC) := (distance b c, distance a c, distance (a + b) (c + c))
  if toA ≤ toB ∧ toA ≤ toC then a else if toB ≤ toC then b else c

/-- The prediction. -/
def predict (f : Filter) (a b c : UInt8) : UInt8 :=
  match f with
  | left => a
  | above => b
  | average => ((a.toNat + b.toNat) / 2).toUInt8
  | nearest => (nearestOf a.toNat b.toNat c.toNat).toUInt8

/-- **The differences of a line to its prediction**; outside the picture all bytes are zero. -/
def apply (f : Filter) (stride : Nat) (previous line : Bytes) : Bytes :=
  let shift (b : Bytes) : Bytes := List.replicate stride 0 ++ b
  (line.zip ((shift line).zip (previous.zip (shift previous)))).map fun e =>
    e.1 - f.predict e.2.1 e.2.2.1 e.2.2.2

end Filter

/-- How far differences are from zero, taken as signed bytes. -/
def effort (b : Bytes) : Nat := (b.map fun x => min x.toNat (256 - x.toNat)).sum

/-- The best of the filters that are left: the first one that leaves nothing, else the last one of
least effort. -/
def bestOf (stride : Nat) (previous line : Bytes) :
    List Filter → Filter × Bytes → Filter × Bytes
  | [], best => best
  | f :: rest, best =>
    let next := f.apply stride previous line
    if effort best.2 = 0 then best
    else bestOf stride previous line rest (if effort next ≤ effort best.2 then (f, next) else best)

/-- **A line as the differences that its best filter leaves**, after the number of the filter. -/
def filtered (stride : Nat) (previous line : Bytes) : Bytes :=
  let best := bestOf stride previous line [.left, .average, .nearest]
    (.above, Filter.above.apply stride previous line)
  best.1.number :: best.2

/-- All lines filtered, each with the one before. -/
def filteredLines (stride : Nat) : Bytes → List Bytes → List Bytes
  | _, [] => []
  | previous, line :: rest => filtered stride previous line :: filteredLines stride line rest

/-- The compressed lines of a picture, or the plain ones where these take less space. -/
def content (p : Picture) : Bytes :=
  let plain := lines p
  let blank := List.replicate (p.width * stride p.colour) 0
  let small := Deflate.shortened (filteredLines (stride p.colour) blank plain)
  if Deflate.storedSize ((p.width * stride p.colour + 1) * p.height) < small.length then
    Deflate.stored (plain.map (0 :: ·))
  else small

/-! ## (2) Files -/

/-- A section of a file: its length, its name, its contents and a checksum. -/
def chunk (name : String) (contents : Bytes) : Bytes :=
  Bytes.bigEndian 4 contents.length ++ Bytes.ofText name ++ contents ++
    Bytes.bigEndian 4 (Checksum.crc32 (Bytes.ofText name ++ contents)).toNat

/-- The number of a set of channels. -/
def channelsNumber (c : ColourType) : UInt8 :=
  (if c.coloured then 2 else 0) + (if c.hasAlpha then 4 else 0)

/-- The header of a file. -/
def header (p : Picture) : Bytes :=
  Bytes.bigEndian 4 p.width ++ Bytes.bigEndian 4 p.height ++
    [if p.colour.deep then 16 else 8, channelsNumber p.colour, 0, 0, 0]

/-- The bytes that every file begins with. -/
def signature : Bytes := [0x89, 0x50, 0x4e, 0x47, 0x0d, 0x0a, 0x1a, 0x0a]

/-- **The file of a picture.** -/
def encode (p : Picture) : Bytes :=
  signature ++ chunk "IHDR" (header p) ++ chunk "IDAT" (content p) ++ chunk "IEND" []

end Png

end MediaTransform
