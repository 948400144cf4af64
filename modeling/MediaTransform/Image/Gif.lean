import MediaTransform.Image.ByteOrder
import MediaTransform.Image.ColourMap
import MediaTransform.Image.Lzw

/-! # The GIF format

A picture as a file with one frame, whose table has at most 256 colours. One of them may be clear.

* **`Gif.Indexed`** — the numbers of colours in a table; `Gif.indexed` keeps up to 256 colours as they
  are, and lets learnt ones stand for more.
* **`Gif.restored`** — the picture that is read back.
* **`Gif.compress`** — colour numbers as codes for ever longer rows of numbers (LZW).
* **`Gif.encode`** — the file of a picture. -/

namespace MediaTransform

namespace Gif

/-! ## (1) Colours -/

/-- A pixel with full alpha unless it is clear. -/
def solid (p : Pixel) : Pixel := if p.alpha = 0 then p else p.opaque8

/-- The channels of a pixel as one number, in the order in which colours are sorted. -/
def rank (p : Pixel) : Nat := ((p.red * 256 + p.green) * 256 + p.blue) * 256 + p.alpha

/-- The pixels of a picture, row by row. -/
def pixels (p : Picture) : Array Pixel := p.toRgba8.grid.cells.map solid

/-- **The distinct colours of pixels in order.** -/
def palette (l : List Pixel) : List Pixel := (l.mergeSort (rank · ≤ rank ·)).eraseReps

/-- **The pixels of a picture as numbers of colours in a table.** -/
structure Indexed where
  table : List Pixel
  numbers : List Nat
  /-- The number of the colour that is clear. -/
  clear : Option Nat

/-- Pixels with the numbers that a function gives them; the last clear pixel says which is clear. -/
def Indexed.ofPixels (table : List Pixel) (pixels : Array Pixel) (number : Pixel → Nat) : Indexed where
  table
  numbers := (pixels.map number).toList
  clear := (pixels.toList.reverse.find? (·.alpha = 0)).map number

/-- **The pixels of a picture as numbers.** -/
def indexed (p : Picture) : Indexed :=
  let pixels := pixels p
  let colours := palette pixels.toList
  if colours.length ≤ ColourMap.count then
    .ofPixels colours pixels fun p => colours.findIdx (· = p)
  else
    let table := ColourMap.ofPixels pixels
    let greens := table.map (·.green)
    let entries := Array.ofFn (n := 256) fun g => ColourMap.entry greens g.val
    .ofPixels table.toList pixels fun p => ColourMap.nearest table (entries.getD p.green 0) p

/-- The pixel of a colour number. -/
def Indexed.pixelOf (i : Indexed) (n : Nat) : Pixel :=
  { i.table.getD n .clear with alpha := if i.clear = some n then 0 else 255 }

/-- **The picture that is read back** from its colour numbers. -/
def restored (p : Picture) : Picture :=
  let i := indexed p
  let colours := Array.ofFn (n := ColourMap.count) fun n => i.pixelOf n.val
  let numbers := i.numbers.toArray
  ⟨.rgba8, Grid.ofFn p.width p.height fun x y =>
    colours.getD (numbers.getD (y * p.width + x) 0) .clear⟩

/-- The size class of a table: the least `k` with room for `n` colours in `2 * 2 ^ k`. -/
def sizeClass (n : Nat) : Nat := (List.range 7).findIdx fun k => n ≤ 2 * 2 ^ k

/-- A table of colours, filled up to its size class with black. -/
def table (colours : List Pixel) : Bytes :=
  (colours.flatMap fun p => [p.red.toUInt8, p.green.toUInt8, p.blue.toUInt8]) ++
    List.replicate (3 * (2 * 2 ^ sizeClass colours.length - colours.length)) 0

/-! ## (2) Codes -/

/-- Codes are written from the lowest bit on, and get longer when they must. -/
def codeStyle : Lzw.Style := ⟨false, false⟩

/-- The writer of codes: rows of numbers with their codes, most recent first, the width of the next
code and the row that is not written yet. -/
structure Coder where
  rows : List (List Nat × Nat)
  next : Nat
  width : Nat
  row : List Nat
  written : Bits

/-- The code of a row, read backwards. -/
def codeOf (c : Coder) : List Nat → Nat
  | [n] => n
  | row => ((c.rows.lookup row).getD 0)

/-- The coder at the start, which has written that it starts. -/
def start (size : Nat) : Coder :=
  ⟨[], 2 ^ size + 2, size + 1, [], Bits.ofNat (size + 1) (Lzw.clearCode size)⟩

/-- **One more number**: while a longer row has a code it is only remembered; else the row so far is
written and the longer one gets the next code. -/
def step (size : Nat) (c : Coder) (n : Nat) : Coder :=
  if c.row = [] then { c with row := [n] }
  else if (c.rows.lookup (n :: c.row)).isSome then { c with row := n :: c.row }
  else
    let written := c.written ++ Bits.ofNat c.width (codeOf c c.row)
    if c.next < Lzw.codeLimit then
      { rows := (n :: c.row, c.next) :: c.rows
        next := c.next + 1
        width := if c.next = 2 ^ c.width then c.width + 1 else c.width
        row := [n]
        written }
    else
      { start size with row := [n], written := written ++ Bits.ofNat c.width (Lzw.clearCode size) }

/-- The bits of the last row and of the end. -/
def finish (size : Nat) (c : Coder) : Bits :=
  let last := if c.row = [] then [] else Bits.ofNat c.width (codeOf c c.row)
  let width := if c.next = 2 ^ c.width ∧ c.row ≠ [] then c.width + 1 else c.width
  c.written ++ last ++ Bits.ofNat width (Lzw.endCode size)

/-- **Colour numbers as codes**, of which the shortest have one bit more than `size`. -/
def compress (size : Nat) (numbers : List Nat) : Bytes :=
  Bits.bytes (finish size (numbers.foldl (step size) (start size)))

/-- Bytes in blocks with their lengths, the last one empty. -/
def blocks : Nat → Bytes → Bytes
  | 0, _ => [0]
  | fuel + 1, b =>
    if b.isEmpty then [0]
    else (b.take 255).length.toUInt8 :: b.take 255 ++ blocks fuel (b.drop 255)

/-! ## (3) Files -/

/-- The width of the colour numbers: at least two bits. -/
def numberSize (numbers : List Nat) : Nat :=
  2 + (List.range 7).findIdx fun k => numbers.foldl max 0 < 2 ^ (k + 2)

/-- What is said of a frame: it is removed when it has been shown, and one number may be clear. -/
def control (clear : Option Nat) : Bytes :=
  [0x21, 0xf9, 4, 8 + (if clear.isSome then 1 else 0), 0, 0, (clear.getD 0).toUInt8, 0]

/-- **The file of a picture.** -/
def encode (p : Picture) : Bytes :=
  let i := indexed p
  let size := Bytes.littleEndian 2 p.width ++ Bytes.littleEndian 2 p.height
  let coded := compress (numberSize i.numbers) i.numbers
  Bytes.ofText "GIF89a" ++ size ++ [0x80, 0, 0] ++ table [] ++ control i.clear ++
    [0x2c, 0, 0, 0, 0] ++ size ++ [0x80 + (sizeClass i.table.length).toUInt8] ++ table i.table ++
    [(numberSize i.numbers).toUInt8] ++ blocks (coded.length + 1) coded ++ [0x3b]

end Gif

end MediaTransform
