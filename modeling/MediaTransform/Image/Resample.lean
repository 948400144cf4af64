import MediaTransform.Geometry
import MediaTransform.Image.Picture

/-! # Resampling pictures

Each channel is resampled by itself with the Lanczos kernel of three lobes, columns first and then
rows, without rounding to whole values in between. All steps are in single precision.

* **`Resample.kernel`** — the kernel.
* **`Resample.taps`** — the input values and weights of one output position on an axis.
* **`Picture.resizeExact`**, **`fitInside`**, **`cover`** — to exact sides, inside a box, and over
  a box whose overflow is cut. -/

namespace MediaTransform

namespace Resample

/-! ## (1) The kernel -/

/-- The circle constant. -/
def pi : Float32 := 3.14159265358979323846

/-- The sine of `pi t` over `pi t`. -/
def sinc (t : Float32) : Float32 := if t == 0 then 1 else Float32.sin (t * pi) / (t * pi)

/-- **The Lanczos kernel with three lobes.** -/
def kernel (t : Float32) : Float32 := if t.abs < 3 then sinc t * sinc (t / 3) else 0

/-- The first input position of an output position, and the weights from there on. -/
structure Taps where
  first : Nat
  weights : Array Float32

/-- A float held between two naturals. -/
def clampToNat (low high : Nat) (x : Float32) : Nat :=
  if x ≤ Float32.ofNat low then low else if Float32.ofNat high ≤ x then high else x.toUInt64.toNat

/-- **The taps of output position `o`** when `n` input positions become `m`: the kernel is as wide
as the coarser of the two grids asks, and the weights sum to one. -/
def taps (n m o : Nat) : Taps :=
  let ratio := Float32.ofNat n / Float32.ofNat m
  let scale := if ratio < 1 then 1 else ratio
  let centre := (Float32.ofNat o + 0.5) * ratio
  let first := clampToNat 0 (n - 1) (centre - 3 * scale).floor
  let last := clampToNat (first + 1) n (centre + 3 * scale).ceil
  let raw := Array.ofFn (n := last - first) fun i =>
    kernel ((Float32.ofNat (first + i.val) - (centre - 0.5)) / scale)
  let total := raw.foldl (· + ·) 0
  ⟨first, raw.map (· / total)⟩

/-! ## (2) One axis after the other -/

/-- The channels of a pixel as floats. -/
structure Sample where
  red : Float32
  green : Float32
  blue : Float32
  alpha : Float32
  deriving Inhabited

/-- The sample of a pixel. -/
def Sample.ofPixel (p : Pixel) : Sample :=
  ⟨Float32.ofNat p.red, Float32.ofNat p.green, Float32.ofNat p.blue, Float32.ofNat p.alpha⟩

/-- A sample plus a weighted one. -/
def Sample.addScaled (s : Sample) (w : Float32) (t : Sample) : Sample :=
  ⟨s.red + w * t.red, s.green + w * t.green, s.blue + w * t.blue, s.alpha + w * t.alpha⟩

/-- A float as a channel: held to the range and rounded. -/
def toChannel (limit : Nat) (x : Float32) : Nat := clampToNat 0 limit x.round

/-- A sample as a pixel. -/
def Sample.toPixel (limit : Nat) (s : Sample) : Pixel :=
  ⟨toChannel limit s.red, toChannel limit s.green, toChannel limit s.blue, toChannel limit s.alpha⟩

/-- The weighted sum of the samples at an output position. -/
def mix (t : Taps) (sample : Nat → Sample) : Sample :=
  (List.range t.weights.size).foldl
    (fun s i => s.addScaled (t.weights.getD i 0) (sample (t.first + i))) ⟨0, 0, 0, 0⟩

/-- The taps of no position. -/
def noTaps : Taps := ⟨0, #[]⟩

/-- A grid with its columns resampled to another height. -/
def tall (g : Grid Pixel) (h : Nat) : Grid Sample :=
  let samples := g.map Sample.ofPixel
  let rows := Array.ofFn (n := h) fun o => taps g.height h o.val
  Grid.ofFn g.width h fun x y =>
    mix (rows.getD y noTaps) fun i => samples.get default x i

/-- **A grid resampled to other sides**, columns first. -/
def grid (limit : Nat) (g : Grid Pixel) (w h : Nat) : Grid Pixel :=
  let columns := Array.ofFn (n := w) fun o => taps g.width w o.val
  let tall := tall g h
  Grid.ofFn w h fun x y =>
    (mix (columns.getD x noTaps) fun i => tall.get default i y).toPixel limit

end Resample

/-! ## (3) Resizing -/

namespace Picture

/-- **The picture with exactly these sides**; the same sides keep every pixel. -/
def resizeExact (p : Picture) (w h : Nat) : Picture :=
  if w = p.width ∧ h = p.height then p
  else ⟨p.colour, Resample.grid p.colour.limit p.grid w h⟩

@[simp] theorem width_resizeExact (p : Picture) (w h : Nat) : (p.resizeExact w h).width = w := by
  unfold resizeExact
  split
  · rename_i c; exact c.1.symm
  · rfl

@[simp] theorem height_resizeExact (p : Picture) (w h : Nat) : (p.resizeExact w h).height = h := by
  unfold resizeExact
  split
  · rename_i c; exact c.2.symm
  · rfl

@[simp] theorem colour_resizeExact (p : Picture) (w h : Nat) :
    (p.resizeExact w h).colour = p.colour := by
  unfold resizeExact
  split <;> rfl

/-- The size of the picture inside a box. -/
def fitSize (p : Picture) (w h : Nat) : Nat × Nat :=
  if w = p.width ∧ h = p.height then (w, h) else fitDimensions p.width p.height w h

/-- **The picture resized to fit inside a box** with its aspect ratio kept. -/
def fitInside (p : Picture) (w h : Nat) : Picture :=
  p.resizeExact (p.fitSize w h).1 (p.fitSize w h).2

/-- The whole picture resized to cover a box, before anything is cut. -/
def coverWhole (p : Picture) (w h : Nat) : Picture :=
  let size := coverDimensions p.width p.height w h
  p.resizeExact size.1 size.2

/-- **The picture resized to cover a box**, with the overflow cut evenly on both sides. -/
def cover (p : Picture) (w h : Nat) : Picture :=
  let whole := p.coverWhole w h
  if whole.width * h < w * whole.height then whole.crop 0 ((whole.height - h) / 2) w h
  else whole.crop ((whole.width - w) / 2) 0 w h

end Picture

end MediaTransform
