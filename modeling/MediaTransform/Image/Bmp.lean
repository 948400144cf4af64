import MediaTransform.Image.ByteOrder
import MediaTransform.Image.Picture

/-! # The BMP format

Lines of pixels in whole words of four bytes, from the bottom to the top.

* **`Bmp.encode`** — the file of a picture: with alpha behind the longer header of its fourth form,
  else behind the short one. -/

namespace MediaTransform

namespace Bmp

/-- The bytes that every file begins with. -/
def signature : Bytes := Bytes.ofText "BM"

/-- The number of bytes of the header of a file. -/
def fileHeaderSize : Nat := 14

/-- The number of bytes of the short header of a picture. -/
def shortHeaderSize : Nat := 40

/-- The number of bytes of the header of a picture in its fourth form. -/
def longHeaderSize : Nat := 108

/-- A number in four bytes. -/
def word (n : Nat) : Bytes := Bytes.littleEndian 4 n

/-- The number of bytes of a written pixel: grey has one, and so does grey with alpha. -/
def pixelSize (c : ColourType) : Nat := if !c.coloured then 1 else if c.hasAlpha then 4 else 3

/-- The bytes of a written pixel. -/
def pixelBytes (c : ColourType) (p : Pixel) : Bytes :=
  if !c.coloured then [p.red.toUInt8]
  else
    [p.blue.toUInt8, p.green.toUInt8, p.red.toUInt8] ++ if c.hasAlpha then [p.alpha.toUInt8] else []

/-- The bytes after a line that make its words whole. -/
def padding (lineBytes : Nat) : Nat := (4 - lineBytes % 4) % 4

/-- The grey values as a table of colours. -/
def greys : Bytes := (List.range 256).flatMap fun n => [n.toUInt8, n.toUInt8, n.toUInt8, 0]

/-- What the longer header says of the channels: where each lies, and the usual colour space. -/
def channelPlaces : Bytes :=
  word 0xff0000 ++ word 0xff00 ++ word 0xff ++ word 0xff000000 ++ word 0x73524742 ++
    List.replicate 48 0

/-- **The file of a picture.** -/
def encode (p : Picture) : Bytes :=
  let c := p.colour
  let long := c.coloured && c.hasAlpha
  let lineBytes := p.width * pixelSize c
  let size := (lineBytes + padding lineBytes) * p.height
  let headerSize := if long then longHeaderSize else shortHeaderSize
  let table := if c.coloured then [] else greys
  let start := fileHeaderSize + headerSize + table.length
  signature ++ word (start + size) ++ word 0 ++ word start ++
    word headerSize ++ word p.width ++ word p.height ++ Bytes.littleEndian 2 1 ++
    Bytes.littleEndian 2 (8 * pixelSize c) ++ word (if long then 3 else 0) ++ word size ++
    word 0 ++ word 0 ++ word (table.length / 4) ++ word 0 ++
    (if long then channelPlaces else []) ++ table ++
    (List.range p.height).reverse.flatMap fun y =>
      ((List.range p.width).flatMap fun x => pixelBytes c (p.grid.get default x y)) ++
        List.replicate (padding lineBytes) 0

end Bmp

end MediaTransform
