import MediaTransform.Image.ByteOrder
import MediaTransform.Image.Huffman
import MediaTransform.Image.Picture

/-! # The WebP format without loss

Pixels as differences to the one above, with green taken from the other colours, in codes by
frequency.

* **`Webp.residues`** — the differences that are written.
* **`Webp.runs`** — pixels and how often each is repeated.
* **`Webp.treeBits?`** — the lengths of codes as bits.
* **`Webp.encode`** — the file of a picture. -/

namespace MediaTransform

namespace Webp

/-! ## (1) Pixels -/

/-- The difference of two bytes modulo 256. -/
def minus (a b : Nat) : Nat := (a + 256 - b) % 256

/-- The channels of two pixels subtracted. -/
def difference (p q : Pixel) : Pixel :=
  ⟨minus p.red q.red, minus p.green q.green, minus p.blue q.blue, minus p.alpha q.alpha⟩

/-- A pixel with green taken from the other colours. -/
def withoutGreen (p : Pixel) : Pixel :=
  { p with red := minus p.red p.green, blue := minus p.blue p.green }

/-- **The differences that are written**: to the pixel above, in the first line to the one on the
left, and of the first pixel to opaque black. -/
def residues (g : Grid Pixel) : List Pixel :=
  let pixels := g.map withoutGreen
  ((List.range g.height).flatMap fun y => (List.range g.width).map fun x =>
    difference (pixels.get default x y)
      (if 0 < y then pixels.get default x (y - 1)
        else if 0 < x then pixels.get default (x - 1) 0
        else ⟨0, 0, 0, 255⟩))

/-- The longest repetition. -/
def longestRun : Nat := 4096

/-- **Pixels and how often each is repeated after its first time**, latest first. -/
def runs (pixels : List Pixel) : List (Pixel × Nat) :=
  pixels.foldl (fun done p =>
    match done with
    | (last, n) :: rest =>
      if last = p ∧ n < longestRun then (last, n + 1) :: rest else (p, 0) :: done
    | [] => [(p, 0)]) []

/-- The symbol of a number of repetitions, and its further bits. -/
def runSymbol (n : Nat) : Nat × Bits :=
  if n ≤ 4 then (256 + n - 1, [])
  else
    let high := (n - 1).log2
    let extra := high - 1
    (256 + 2 * high + (n - 1) / 2 ^ extra % 2, Bits.ofNat extra (n - 1))

/-! ## (2) Codes -/

/-- A tree of one symbol. -/
def singleBits (symbol : Nat) : Bits :=
  Bits.ofNat 2 1 ++
    if symbol ≤ 1 then Bits.ofNat 1 0 ++ Bits.ofNat 1 symbol
    else Bits.ofNat 1 1 ++ Bits.ofNat 8 symbol

/-- How often each symbol below `size` occurs. -/
def frequencies (size : Nat) (symbols : List Nat) : List Nat :=
  (symbols.foldl (fun (counts : Array Nat) s => counts.modify s (· + 1))
    (Array.replicate size 0)).toList

/-- The order in which the lengths of codes of lengths are written. -/
def lengthOrder : List Nat := [17, 18, 0, 1, 2, 3, 4, 5, 16, 6, 7, 8, 9, 10, 11, 12, 13, 14, 15]

/-- The lengths of codes as bits, in codes by frequency of their own. -/
def lengthBits (lengths : List Nat) : Bits :=
  let counts := frequencies 16 lengths
  let own := Huffman.lengths? 7 counts
  let head := lengthOrder.flatMap fun n =>
    Bits.ofNat 3 (if counts.getD n 0 = 0 then 0
      else match own with
        | some l => l.getD n 0
        | none => 1)
  let most := if lengths.length = 256 then Bits.ofNat 1 1 ++ Bits.ofNat 3 3 ++ Bits.ofNat 8 254
    else Bits.ofNat 1 0
  let codes := Huffman.codes (own.getD [])
  Bits.ofNat 1 0 ++ Bits.ofNat 4 15 ++ head ++ most ++ lengths.flatMap (codes.getD · [])

/-- **The tree of symbols that occur so often**, as bits, and the code of each symbol. -/
def tree (counts : List Nat) : Bits × Array Bits :=
  match Huffman.lengths? 15 counts with
  | some lengths => (lengthBits lengths, Huffman.codes lengths)
  | none => (singleBits ((counts.findIdx (· ≠ 0)) % counts.length), #[])

/-! ## (3) Files -/

/-- The beginning of the bits of a picture: sides, whether alpha counts, and what was done to the
pixels. -/
def head (p : Picture) : Bits :=
  Bits.ofNat 8 0x2f ++ Bits.ofNat 14 (p.width - 1) ++ Bits.ofNat 14 (p.height - 1) ++
    Bits.ofNat 1 (if p.colour.hasAlpha then 1 else 0) ++ Bits.ofNat 3 0 ++
    Bits.ofNat 3 5 ++ Bits.ofNat 6 57 ++ Bits.ofNat 1 0 ++ singleBits 2 ++
    (List.replicate 4 (singleBits 0)).flatten ++ Bits.ofNat 3 0

/-- **The bits of a picture.** -/
def bits (p : Picture) : Bits :=
  let runs := (runs (residues p.toRgba8.grid)).reverse
  let symbols := runs.flatMap fun (pixel, n) =>
    pixel.green :: if n = 0 then [] else [(runSymbol n).1]
  let channel (used : Bool) (value : Pixel → Nat) : Bits × Array Bits :=
    if used then tree (frequencies 256 (runs.map fun e => value e.1)) else (singleBits 0, #[])
  let (greenTree, green) := tree (frequencies 280 symbols)
  let (redTree, red) := channel p.colour.coloured (·.red)
  let (blueTree, blue) := channel p.colour.coloured (·.blue)
  let (alphaTree, alpha) := channel p.colour.hasAlpha (·.alpha)
  head p ++ greenTree ++ redTree ++ blueTree ++ alphaTree ++ singleBits 1 ++
    runs.flatMap fun (pixel, n) =>
      let (symbol, extra) := runSymbol n
      green.getD pixel.green [] ++ red.getD pixel.red [] ++ blue.getD pixel.blue [] ++
        alpha.getD pixel.alpha [] ++ if n = 0 then [] else green.getD symbol [] ++ extra

/-- **The file of a picture.** -/
def encode (p : Picture) : Bytes :=
  let frame := Bits.bytes (bits p)
  let padding : Bytes := if frame.length % 2 = 1 then [0] else []
  Bytes.ofText "RIFF" ++ Bytes.littleEndian 4 (frame.length + padding.length + 12) ++
    Bytes.ofText "WEBPVP8L" ++ Bytes.littleEndian 4 frame.length ++ frame ++ padding

end Webp

end MediaTransform
