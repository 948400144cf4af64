import MediaTransform.Image.ByteOrder
import MediaTransform.Image.Deflate
import MediaTransform.Image.Jpeg.Blocks

/-! # The JPEG format

Blocks of eight by eight values as sums of waves, of which fine ones are kept roughly.

* **`Jpeg.Coder`**, **`Jpeg.block`** — the bits of a block.
* **`Jpeg.encode`** — the file of a picture in one scan, with all channels at full size. -/

namespace MediaTransform

namespace Jpeg

/-! ## (1) Codes -/

/-- The length of the code of each symbol of a table, in order. -/
def CodeTable.lengths (t : CodeTable) : List Nat :=
  t.counts.zipIdx.flatMap fun (count, i) => List.replicate count (i + 1)

/-- **The code of each symbol**, at the place of its number. -/
def CodeTable.codes (t : CodeTable) : Array Bits :=
  (t.symbols.zip (Deflate.codesFrom t.lengths [] t.lengths)).foldl
    (fun codes e => codes.setIfInBounds e.1 e.2) (Array.replicate 256 [])

/-! ## (2) Blocks -/

/-- The codes of a channel. -/
structure Coder where
  steps : Array Bits
  waves : Array Bits

/-- The coder of tables. -/
def Coder.ofTables (steps waves : CodeTable) : Coder := ⟨steps.codes, waves.codes⟩

/-- The coder of brightness. -/
def brightnessCoder : Coder := .ofTables brightnessSteps brightnessWaves

/-- The coder of colour. -/
def tintCoder : Coder := .ofTables tintSteps tintWaves

/-- The coder of each channel. -/
def coders (coloured : Bool) : List Coder :=
  if coloured then [brightnessCoder, tintCoder, tintCoder] else [brightnessCoder]

/-- The number of bits of a number without its sign. -/
def bitSize (v : Int) : Nat := if v = 0 then 0 else v.natAbs.log2 + 1

/-- A number in the bits of its size; one below zero is told by what is missing to the next power
of two. -/
def valueBits (v : Int) : Bits :=
  let size := bitSize v
  Deflate.codeBits size (if v < 0 then (v + 2 ^ size - 1).toNat else v.toNat)

/-- Waves in order, each with the number of silent ones before it; sixteen silent ones have a symbol
of their own. -/
def wavesFrom (codes : Array Bits) : Nat → List Int → Bits
  | 0, [] => []
  | _ + 1, [] => codes.getD 0 []
  | silent, v :: rest =>
    if v = 0 then wavesFrom codes (silent + 1) rest
    else
      (List.replicate (silent / 16) (codes.getD 0xf0 [])).flatten ++
        codes.getD (16 * (silent % 16) + bitSize v) [] ++ valueBits v ++ wavesFrom codes 0 rest

/-- **The bits of a block**, whose coarsest wave is told by its step from the last block. -/
def block (coder : Coder) (last : Int) (waves : List Int) : Bits :=
  match waves with
  | [] => []
  | first :: rest =>
    coder.steps.getD (bitSize (first - last)) [] ++ valueBits (first - last) ++
      wavesFrom coder.waves 0 rest

/-! ## (3) Pictures -/

/-- **The bits of a picture**: blocks row by row, each with all channels. -/
def scan (p : Picture) (quality : Nat) : Bits :=
  let channels := (channels p.colour.coloured quality).zip (coders p.colour.coloured)
  let across := (p.width + 7) / 8
  let places := (List.range ((p.height + 7) / 8 * across)).map fun i =>
    (8 * (i % across), 8 * (i / across))
  let blocks := places.foldl (fun (acc : List Int × List Bits) place =>
      let kept := channels.map fun c => c.1.waves p.grid place.1 place.2
      let bits := (channels.zip (acc.1.zip kept)).flatMap fun (c, last, waves) =>
        block c.2 last waves
      (kept.map (·.headD 0), bits :: acc.2))
    (channels.map fun _ => 0, [])
  blocks.2.reverse.flatten

/-- Bits in bytes, the first bit of each byte in its highest place; the last byte is filled up with
ones, and a byte of ones is marked by a zero after it. -/
def packed (bits : Bits) : Bytes :=
  let whole := bits ++ List.replicate ((8 - bits.length % 8) % 8) true
  (go (whole.length / 8) whole).flatMap fun b => if b = 0xff then [0xff, 0] else [b]
where
  /-- So many bytes of bits. -/
  go : Nat → Bits → Bytes
    | 0, _ => []
    | n + 1, bits => (Bits.toNat (bits.take 8).reverse).toUInt8 :: go n (bits.drop 8)

/-! ## (4) Files -/

/-- A section with its length. -/
def segment (mark : UInt8) (contents : Bytes) : Bytes :=
  [0xff, mark] ++ Bytes.bigEndian 2 (contents.length + 2) ++ contents

/-- The contents of the section of a table of quantizers. -/
def quantizerContents (number : UInt8) (table : List Nat) : Bytes :=
  number :: (inWaveOrder table).map (·.toUInt8)

/-- The contents of the section of a table of codes. -/
def codeContents (number : UInt8) (t : CodeTable) : Bytes :=
  number :: (t.counts ++ t.symbols).map (·.toUInt8)

/-- The channels of a picture by their numbers, each with the number of its tables. -/
def channelNumbers (coloured : Bool) : List (UInt8 × UInt8) :=
  if coloured then [(1, 0), (2, 1), (3, 1)] else [(1, 0)]

/-- The contents of the section of the frame: sides and channels. -/
def frameContents (p : Picture) : Bytes :=
  let numbers := channelNumbers p.colour.coloured
  [8] ++ Bytes.bigEndian 2 p.height ++ Bytes.bigEndian 2 p.width ++ [numbers.length.toUInt8] ++
    numbers.flatMap fun n => [n.1, 0x11, n.2]

/-- **The sections of a file before its scan**, each with its mark. -/
def sections (p : Picture) (quality : Nat) : List (UInt8 × Bytes) :=
  let coloured := p.colour.coloured
  [(0xe0, Bytes.ofText "JFIF" ++ [0, 1, 2, 0, 0, 1, 0, 1, 0, 0]), (0xc0, frameContents p),
    (0xdb, quantizerContents 0 (quantizers quality brightnessTable))] ++
  (if coloured then [(0xdb, quantizerContents 1 (quantizers quality tintTable))] else []) ++
  [(0xc4, codeContents 0 brightnessSteps), (0xc4, codeContents 0x10 brightnessWaves)] ++
  (if coloured then [(0xc4, codeContents 1 tintSteps), (0xc4, codeContents 0x11 tintWaves)] else [])

/-- The contents of the section before the scan: all channels and all waves. -/
def selection (coloured : Bool) : Bytes :=
  let numbers := channelNumbers coloured
  [numbers.length.toUInt8] ++ (numbers.flatMap fun n => [n.1, 17 * n.2]) ++ [0, 63, 0]

/-- **The file of a picture** at a quality. -/
def encode (p : Picture) (quality : Nat) : Bytes :=
  [0xff, 0xd8] ++ (((sections p quality).flatMap fun s => segment s.1 s.2) ++
    (segment 0xda (selection p.colour.coloured) ++ (packed (scan p quality) ++ [0xff, 0xd9])))

end Jpeg

end MediaTransform
