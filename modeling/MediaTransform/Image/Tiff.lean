import MediaTransform.Image.ByteOrder
import MediaTransform.Image.Picture

/-! # The TIFF format

Strips of lines, and a directory of numbered fields that says where they are and what they hold.

* **`Tiff.Field`** — a field of a directory; **`Tiff.directory`** writes fields.
* **`Tiff.encode`** — the file of a picture, without compression. -/

namespace MediaTransform

namespace Tiff

/-! ## (1) Directories -/

/-- The values of a field. -/
inductive Values where
  | shorts (l : List Nat)
  | longs (l : List Nat)
  | ratios (l : List (Nat × Nat))

namespace Values

/-- The number of the kind of values. -/
def kind : Values → Nat
  | shorts _ => 3
  | longs _ => 4
  | ratios _ => 5

/-- How many values there are. -/
def count : Values → Nat
  | shorts l => l.length
  | longs l => l.length
  | ratios l => l.length

/-- The bytes of values. -/
def bytes : Values → Bytes
  | shorts l => l.flatMap (Bytes.littleEndian 2)
  | longs l => l.flatMap (Bytes.littleEndian 4)
  | ratios l => l.flatMap fun r => Bytes.littleEndian 4 r.1 ++ Bytes.littleEndian 4 r.2

end Values

/-- **A field of a directory.** -/
structure Field where
  tag : Nat
  values : Values

/-- The entry of a field whose values, if they are more than four bytes, lie at a place. -/
def Field.entry (f : Field) (place : Nat) : Bytes :=
  let b := f.values.bytes
  Bytes.littleEndian 2 f.tag ++ Bytes.littleEndian 2 f.values.kind ++
    Bytes.littleEndian 4 f.values.count ++
    if 4 < b.length then Bytes.littleEndian 4 place else b ++ List.replicate (4 - b.length) 0

/-- The values of fields that do not fit into entries, and the entries, for a place where the values
begin. -/
def layOut : Nat → List Field → Bytes × Bytes
  | _, [] => ([], [])
  | place, f :: rest =>
    let outside := if 4 < f.values.bytes.length then f.values.bytes else []
    let (values, entries) := layOut (place + outside.length) rest
    (outside ++ values, f.entry place ++ entries)

/-- **The values outside a directory, and the directory**, for a place where both begin. -/
def directory (place : Nat) (fields : List Field) : Bytes × Bytes :=
  let (values, entries) := layOut place fields
  (values, Bytes.littleEndian 2 fields.length ++ entries ++ Bytes.littleEndian 4 0)

/-! ## (2) Writing -/

/-- How many bytes a strip has at least, unless it is the last one. -/
def stripSize : Nat := 1000000

/-- The number of bytes of a line. -/
def lineBytes (p : Picture) : Nat := p.width * p.colour.channelCount * p.colour.depth

/-- The number of lines of a strip. -/
def linesPerStrip (p : Picture) : Nat := (stripSize + lineBytes p - 1) / lineBytes p

/-- Where the strips begin, and how many bytes each has. -/
def strips (p : Picture) : List (Nat × Nat) :=
  let lines := linesPerStrip p
  (List.range ((p.height + lines - 1) / lines)).map fun i =>
    (8 + i * lines * lineBytes p, min lines (p.height - i * lines) * lineBytes p)

/-- The fields of a picture. -/
def fields (p : Picture) : List Field :=
  let each (n : Nat) : Values := .shorts (List.replicate p.colour.channelCount n)
  [⟨256, .longs [p.width]⟩, ⟨257, .longs [p.height]⟩, ⟨258, each (8 * p.colour.depth)⟩,
    ⟨259, .shorts [1]⟩, ⟨262, .shorts [if p.colour.coloured then 2 else 1]⟩,
    ⟨273, .longs ((strips p).map (·.1))⟩, ⟨277, .shorts [p.colour.channelCount]⟩,
    ⟨278, .longs [linesPerStrip p]⟩, ⟨279, .longs ((strips p).map (·.2))⟩,
    ⟨282, .ratios [(1, 1)]⟩, ⟨283, .ratios [(1, 1)]⟩, ⟨296, .shorts [1]⟩, ⟨317, .shorts [1]⟩,
    ⟨339, each 1⟩]

/-- The bytes that a file begins with whose numbers have the lowest byte first. -/
def signature : Bytes := [0x49, 0x49, 0x2a, 0]

/-- **The file of a picture.** -/
def encode (p : Picture) : Bytes :=
  let raster := p.samples.flatMap (Bytes.littleEndian p.colour.depth)
  let (values, entries) := directory (8 + raster.length) (fields p)
  signature ++ Bytes.littleEndian 4 (8 + raster.length + values.length) ++ raster ++ values ++
    entries

end Tiff

end MediaTransform
