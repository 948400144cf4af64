import MediaTransform.Image.Jpeg.Tables
import MediaTransform.Image.Jpeg.Transform
import MediaTransform.Image.Picture

/-! # Pictures in blocks

A picture as channels of brightness and tints, cut into blocks of eight by eight values whose waves
are kept roughly.

* **`Jpeg.Channel`** — a channel of a picture; `Channel.waves` are the kept waves of a block.
* **`Jpeg.restored`** — the picture that kept waves give back. -/

namespace MediaTransform

namespace Jpeg

/-! ## (1) Waves that are kept -/

/-- A quotient rounded to the nearest integer, a half away from zero. -/
def roundedQuotient (n : Int) (d : Nat) : Int :=
  let q := (2 * n.natAbs + d) / (2 * d)
  if n < 0 then -(q : Int) else q

/-- The kept waves of a block of values, in the order of writing. -/
def keptWaves (quantizers : Array Nat) (values : Array Int) : List Int :=
  let waves := transform values
  waveOrder.map fun i => roundedQuotient ((waves.getD i 0).tdiv 8) (quantizers.getD i 1)

/-! ## (2) Channels -/

/-- The brightness and the two tints of a pixel, in integers. -/
def tints (p : Pixel) : Int × Int × Int :=
  let (r, g, b) : Int × Int × Int := (p.red, p.green, p.blue)
  let half : Int := 2 ^ 15 - 1
  let middle : Int := 128 * 2 ^ 16 + half
  ((19595 * r + 38469 * g + 7471 * b + half) / 2 ^ 16,
    (-11059 * r - 21709 * g + 32768 * b + middle) / 2 ^ 16,
    (32768 * r - 27439 * g - 5329 * b + middle) / 2 ^ 16)

/-- The values of a block that begins at a position; those outside repeat the edge. -/
def blockAt (g : Grid Pixel) (value : Pixel → Int) (left top : Nat) : Array Int :=
  Array.ofFn (n := 64) fun i =>
    value (g.get default (min (left + i.val % 8) (g.width - 1))
      (min (top + i.val / 8) (g.height - 1)))

/-- **A channel**: its value of a pixel, and how roughly its waves are kept. -/
structure Channel where
  value : Pixel → Int
  quantizers : Array Nat

/-- The channels of a picture at a quality. -/
def channels (coloured : Bool) (quality : Nat) : List Channel :=
  let brightness := (quantizers quality brightnessTable).toArray
  let tint := (quantizers quality tintTable).toArray
  if coloured then
    [⟨fun p => (tints p).1, brightness⟩, ⟨fun p => (tints p).2.1, tint⟩,
      ⟨fun p => (tints p).2.2, tint⟩]
  else [⟨fun p => p.red, brightness⟩]

/-- The kept waves of the block of a channel that begins at a position. -/
def Channel.waves (c : Channel) (g : Grid Pixel) (left top : Nat) : List Int :=
  keptWaves c.quantizers (blockAt g c.value left top)

/-! ## (3) The way back -/

/-- An integer held to the range of a byte. -/
def toByte (v : Int) : Nat := (min v 255).toNat

/-- The values of a block whose waves were kept. -/
def restoredBlock (quantizers : Array Nat) (waves : List Int) : Array Nat :=
  (inverse ((waveOrder.zip waves).foldl
    (fun a e => a.setIfInBounds e.1 (e.2 * (quantizers.getD e.1 1 : Nat)))
    (Array.replicate 64 0))).map toByte

/-- The values of a channel that are given back, as a function of the position. -/
def Channel.restored (c : Channel) (g : Grid Pixel) : Nat → Nat → Nat :=
  let across := (g.width + 7) / 8
  let blocks := Array.ofFn (n := (g.height + 7) / 8 * across) fun i =>
    restoredBlock c.quantizers (c.waves g (8 * (i.val % across)) (8 * (i.val / across)))
  fun x y => (blocks.getD (y / 8 * across + x / 8) #[]).getD (8 * (y % 8) + x % 8) 0

/-- The pixel of brightness and tints, in integers. -/
def pixelOf (brightness blueness redness : Nat) : Pixel :=
  let (b, r) : Int × Int := (blueness - 128, redness - 128)
  let base : Int := brightness * 2 ^ 14 + (2 ^ 13 - 1)
  ⟨toByte ((base + 22970 * r) / 2 ^ 14), toByte ((base - 11700 * r - 5638 * b) / 2 ^ 14),
    toByte ((base + 29032 * b) / 2 ^ 14), 255⟩

/-- **The picture that is given back** after it was kept at a quality. -/
def restored (p : Picture) (quality : Nat) : Picture :=
  let colour : ColourType := ⟨false, p.colour.coloured, false⟩
  match (channels p.colour.coloured quality).map (·.restored p.grid) with
  | [y, b, r] => ⟨colour, Grid.ofFn p.width p.height fun i j => pixelOf (y i j) (b i j) (r i j)⟩
  | [y] => ⟨colour, Grid.ofFn p.width p.height fun i j =>
      ⟨y i j, y i j, y i j, 255⟩⟩
  | _ => p

end Jpeg

end MediaTransform
