import MediaTransform.Image.Deflate.Reader
import MediaTransform.Image.Jpeg.Blocks

/-! # Reading the scan of a JPEG file

* **`Jpeg.rowsFrom`** — the bytes of a scan between its restart marks.
* **`Jpeg.ChannelReader`** — how the blocks of a channel are read; **`readBlock`** reads the values of
  one of them.
* **`Jpeg.readUnits`** — the blocks of a row, unit by unit. -/

namespace MediaTransform

namespace Jpeg

open Bits (Reading Source)

/-! ## (1) Bytes -/

/-- Whether a byte marks a restart. -/
def isRestart (b : UInt8) : Bool := 0xd0 ≤ b && b ≤ 0xd7

/-- **The bytes of a scan** up to its end, parted at restart marks, with the bytes of the first row so
far, the latest first. A zero after a byte of ones only says that this is no mark. -/
def rowsFrom : Bytes → Bytes → List Bytes
  | row, 0xff :: 0x00 :: rest => rowsFrom (0xff :: row) rest
  | row, 0xff :: mark :: rest =>
    if isRestart mark then row.reverse :: rowsFrom [] rest else [row.reverse]
  | row, b :: rest => rowsFrom (b :: row) rest
  | row, [] => [row.reverse]

/-- A byte with its bits in the opposite order. -/
def mirrored (b : UInt8) : UInt8 := (Bits.toNat (Bits.ofNat 8 b.toNat).reverse).toUInt8

/-! ## (2) Numbers and blocks -/

/-- The longest code. -/
def longestCode : Nat := 16

/-- The next symbol. -/
def symbol (codes : Deflate.Codes) : Reading Nat := codes.symbolFrom longestCode 1 0 0 0

/-- **A number in the bits of its size**, the highest first; one whose first bit is missing is below
zero. -/
def readValue (size : Nat) : Reading Int := do
  let n ← (List.range size).foldlM (fun n _ => return 2 * n + (← Bits.read 1)) 0
  return if 2 * n < 2 ^ size then n - (2 ^ size - 1) else n

/-- The finer waves of a block from a place on, at most `fuel` of them. -/
def readWaves (codes : Deflate.Codes) : Nat → Nat → Array Int → Reading (Array Int)
  | 0, _, waves => return waves
  | fuel + 1, place, waves => do
    if 64 ≤ place then return waves
    let s ← symbol codes
    if s % 16 = 0 then
      -- sixteen silent waves, or only silent ones from here on
      if s / 16 = 15 then readWaves codes fuel (place + 16) waves else return waves
    else
      let place := place + s / 16
      let v ← readValue (s % 16)
      readWaves codes fuel (place + 1) (waves.setIfInBounds place v)

/-- **How the blocks of a channel are read**: how many there are in a unit, across and down, how
roughly waves were kept, and the codes of steps and of waves. -/
structure ChannelReader where
  across : Nat
  down : Nat
  quantizers : Array Nat
  steps : Deflate.Codes
  waves : Deflate.Codes

/-- **The values of the next block**, and its coarsest wave, which is told by its step from the last
block. -/
def ChannelReader.readBlock (c : ChannelReader) (last : Int) : Reading (Int × Array Nat) := do
  let coarsest := last + (← readValue (← symbol c.steps))
  let waves ← readWaves c.waves 64 1 ((Array.replicate 64 0).setIfInBounds 0 coarsest)
  return (coarsest, restoredBlock c.quantizers waves.toList)

/-- So many blocks of a channel, with the coarsest wave of the last one. -/
def ChannelReader.readBlocks (c : ChannelReader) : Nat → Int → Reading (Int × List (Array Nat))
  | 0, last => return (last, [])
  | n + 1, last => do
    let (last, values) ← c.readBlock last
    let (last, more) ← c.readBlocks n last
    return (last, values :: more)

/-! ## (3) Units -/

/-- The blocks of a unit, channel by channel, with the coarsest waves of the last ones. -/
def readUnit : List ChannelReader → List Int → Reading (List Int × List (Array Nat))
  | c :: channels, last :: lasts => do
    let (last, values) ← c.readBlocks (c.across * c.down) last
    let (lasts, more) ← readUnit channels lasts
    return (last :: lasts, values ++ more)
  | _, _ => return ([], [])

/-- **So many units**, before which nothing has been read. -/
def readUnits (channels : List ChannelReader) (count : Nat) : Reading (List (Array (Array Nat))) := do
  let (_, units) ← (List.range count).foldlM (fun (lasts, units) _ => do
      let (lasts, blocks) ← readUnit channels lasts
      return (lasts, blocks.toArray :: units))
    (channels.map fun _ => (0 : Int), ([] : List (Array (Array Nat))))
  return units.reverse

/-- **All units of a scan**, of which each row has as many as stand between two restarts. -/
def units? (channels : List ChannelReader) (interval count : Nat) (scan : Bytes) :
    Option (Array (Array (Array Nat))) := do
  let rowUnits := if interval = 0 then count else interval
  let rows ← (rowsFrom [] scan).zipIdx.mapM fun (row, i) =>
    ((readUnits channels (min rowUnits (count - i * rowUnits))).run
      (.ofBytes (row.map mirrored))).map (·.1)
  let units := rows.flatten.toArray
  guard (units.size = count)
  return units

end Jpeg

end MediaTransform
