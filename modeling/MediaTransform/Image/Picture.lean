import MediaTransform.Colour
import MediaTransform.Image.Grid

/-! # Pictures

* **`ColourType`** — which channels a picture stores, and how deep they are.
* **`Pixel`** — four channels. Where a picture stores fewer, a pixel holds what the stored ones
  stand for: grey three times, and full alpha.
* **`Picture`** — a colour type and a grid of pixels.
* **`Picture.toRgba8`**, **`toRgb8`**, **`luminance`** — conversions. -/

namespace MediaTransform

/-! ## (1) Colour types and pixels -/

/-- **The stored channels of a picture.** -/
structure ColourType where
  /-- 16 bits a channel instead of 8. -/
  deep : Bool
  /-- Red, green and blue instead of grey. -/
  coloured : Bool
  /-- An alpha channel. -/
  hasAlpha : Bool
  deriving DecidableEq, Repr

namespace ColourType

/-- Red, green, blue and alpha, 8 bits each. -/
def rgba8 : ColourType := ⟨false, true, true⟩

/-- Red, green and blue, 8 bits each. -/
def rgb8 : ColourType := ⟨false, true, false⟩

/-- The name of a colour type. -/
def name (c : ColourType) : String :=
  (if c.coloured then "rgb" else "l") ++ (if c.hasAlpha then "a" else "") ++
    (if c.deep then "16" else "8")

/-- All colour types. -/
def all : List ColourType :=
  [false, true].flatMap fun deep => [false, true].flatMap fun coloured =>
    [false, true].map fun hasAlpha => ⟨deep, coloured, hasAlpha⟩

/-- The colour type of a name. -/
def ofName? (s : String) : Option ColourType := all.find? (·.name = s)

/-- The number of stored channels. -/
def channelCount (c : ColourType) : Nat :=
  (if c.coloured then 3 else 1) + (if c.hasAlpha then 1 else 0)

/-- The number of bytes of a channel. -/
def depth (c : ColourType) : Nat := if c.deep then 2 else 1

/-- The largest value of a channel. -/
def limit (c : ColourType) : Nat := if c.deep then 65535 else 255

end ColourType

/-- **One pixel**: red, green, blue and alpha. -/
structure Pixel where
  red : Nat
  green : Nat
  blue : Nat
  alpha : Nat
  deriving DecidableEq, Repr, Inhabited

namespace Pixel

/-- A function applied to each channel. -/
def map (f : Nat → Nat) (p : Pixel) : Pixel := ⟨f p.red, f p.green, f p.blue, f p.alpha⟩

/-- The pixel of a colour. -/
def ofColour (c : Colour) : Pixel := ⟨c.red.toNat, c.green.toNat, c.blue.toNat, c.alpha.toNat⟩

/-- Transparent black. -/
def clear : Pixel := ⟨0, 0, 0, 0⟩

/-- The pixel with full alpha of 8 bits. -/
def opaque8 (p : Pixel) : Pixel := { p with alpha := 255 }

/-- **The luminance of a pixel.** -/
def luminance (p : Pixel) : Nat := (2126 * p.red + 7152 * p.green + 722 * p.blue) / 10000

/-- The stored channels of a pixel. -/
def channels (c : ColourType) (p : Pixel) : List Nat :=
  (if c.coloured then [p.red, p.green, p.blue] else [p.red]) ++
    (if c.hasAlpha then [p.alpha] else [])

/-- The pixel of stored channels. -/
def ofChannels (c : ColourType) : List Nat → Pixel
  | [l] => ⟨l, l, l, c.limit⟩
  | [l, a] => ⟨l, l, l, a⟩
  | [r, g, b] => ⟨r, g, b, c.limit⟩
  | [r, g, b, a] => ⟨r, g, b, a⟩
  | _ => default

end Pixel

/-- **A channel of 16 bits in 8 bits**, rounded. -/
def narrow (v : Nat) : Nat := (v + 128) / 257

/-! ## (2) Pictures -/

/-- **A picture.** -/
structure Picture where
  colour : ColourType
  grid : Grid Pixel

namespace Picture

/-- The width in pixels. -/
def width (p : Picture) : Nat := p.grid.width

/-- The height in pixels. -/
def height (p : Picture) : Nat := p.grid.height

/-- The number of pixels. -/
def area (p : Picture) : Nat := p.width * p.height

/-- The most bytes of samples that a picture may have when it is read. -/
def memoryLimit : Nat := 2 ^ 29

/-- Whether a picture of these sides may be read. -/
def isReadable (c : ColourType) (w h : Nat) : Bool :=
  w * h * c.channelCount * c.depth ≤ memoryLimit

/-- **The picture of samples**: the stored channels of one pixel after the other, row by row. What is
missing counts as zero. -/
def ofSamples (c : ColourType) (w h : Nat) (samples : Array Nat) : Picture :=
  ⟨c, Grid.ofFn w h fun x y =>
    Pixel.ofChannels c ((List.range c.channelCount).map fun i =>
      samples.getD ((y * w + x) * c.channelCount + i) 0)⟩

/-- **The samples of a picture**: the stored channels of one pixel after the other, row by row. -/
def samples (p : Picture) : List Nat := p.grid.cells.toList.flatMap (Pixel.channels p.colour)

/-- The channels in 8 bits. -/
def narrowed (p : Picture) : Grid Pixel :=
  if p.colour.deep then p.grid.map (Pixel.map narrow) else p.grid

/-- **The picture with colour and alpha in 8 bits.** -/
def toRgba8 (p : Picture) : Picture := ⟨.rgba8, p.narrowed⟩

/-- **The picture with colour in 8 bits and no alpha.** -/
def toRgb8 (p : Picture) : Picture := ⟨.rgb8, p.narrowed.map Pixel.opaque8⟩

/-- **The luminance of each pixel in 8 bits**; alpha does not count. -/
def luminance (p : Picture) : Grid Nat :=
  p.grid.map fun c => if p.colour.deep then narrow c.luminance else c.luminance

/-- The window of `w` by `h` pixels at (`x`, `y`). -/
def crop (p : Picture) (x y w h : Nat) : Picture :=
  ⟨p.colour, Grid.ofFn w h fun i j => p.grid.get default (x + i) (y + j)⟩

@[simp] theorem width_crop (p : Picture) (x y w h : Nat) : (p.crop x y w h).width = w := rfl

@[simp] theorem height_crop (p : Picture) (x y w h : Nat) : (p.crop x y w h).height = h := rfl

end Picture

end MediaTransform
