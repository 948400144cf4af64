import MediaTransform.Image.Resample

/-! # Putting pictures over backgrounds

* **`Picture.flatten`** — over a solid background, in integers, rounded to nearest.
* **`Picture.pad`** — fitted inside a box and centred on a solid canvas.
* **`Pixel.onto`** — one pixel over another, in single precision. -/

namespace MediaTransform

namespace Pixel

/-! ## (1) One pixel -/

/-- **A channel over another one** with an alpha of 8 bits, rounded to nearest. -/
def blend (front back alpha : Nat) : Nat := (front * alpha + back * (255 - alpha) + 127) / 255

/-- A pixel over an opaque background. -/
def flattenOver (front back : Pixel) : Pixel :=
  ⟨blend front.red back.red front.alpha, blend front.green back.green front.alpha,
    blend front.blue back.blue front.alpha, 255⟩

/-- A channel of 8 bits as a fraction. -/
def fraction (v : Nat) : Float32 := Float32.ofNat v / 255

/-- A fraction as a channel of 8 bits, cut to the whole number below. -/
def ofFraction (x : Float32) : Nat := (255 * x).toUInt8.toNat

/-- A partly transparent pixel over another one. -/
def mixOver (front back : Pixel) : Pixel :=
  let fa := fraction front.alpha
  let ba := fraction back.alpha
  let a := ba + fa - ba * fa
  let channel (f b : Nat) : Nat :=
    ofFraction ((fraction f * fa + (fraction b * ba) * (1 - fa)) / a)
  if a == 0 then back
  else
    ⟨channel front.red back.red, channel front.green back.green, channel front.blue back.blue,
      ofFraction a⟩

/-- **A pixel over another one**: an opaque one replaces, a transparent one leaves the other. -/
def onto (front back : Pixel) : Pixel :=
  if front.alpha = 0 then back else if front.alpha = 255 then front else mixOver front back

end Pixel

/-! ## (2) Pictures -/

namespace Picture

/-- **The picture over a solid background**, without alpha. -/
def flatten (p : Picture) (background : Colour) : Picture :=
  ⟨.rgb8, p.narrowed.map (Pixel.flattenOver · (Pixel.ofColour background))⟩

/-- **A picture of 8 bits on a solid canvas** of `w` by `h`, its corner at (`left`, `top`). -/
def onCanvas (p : Picture) (w h left top : Nat) (background : Colour) : Picture :=
  let back := Pixel.ofColour background
  ⟨.rgba8, Grid.ofFn w h fun x y =>
    if left ≤ x ∧ top ≤ y then
      match p.grid.at? (x - left) (y - top) with
      | some front => Pixel.onto front back
      | none => back
    else back⟩

/-- **The picture fitted inside a box and centred on a canvas of the box's size.** -/
def pad (p : Picture) (w h : Nat) (background : Colour) : Picture :=
  let fitted := (p.fitInside w h).toRgba8
  fitted.onCanvas w h ((w - fitted.width) / 2) ((h - fitted.height) / 2) background

end Picture

end MediaTransform
