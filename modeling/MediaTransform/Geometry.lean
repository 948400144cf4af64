import MediaTransform.Number.Arithmetic

/-! # Sizes of resized pictures

Ratios are numbers, so each quotient and product is rounded; a side is the nearest integer of its
product, held to 32 bits and to at least one pixel.

* **`sideOf`** — a side from its exact-looking number.
* **`fitDimensions`** — the size that fits a box with the aspect ratio kept.
* **`aspectDimensions`** — the size with one given side and a given aspect ratio. -/

namespace MediaTransform

/-- The largest side of a picture: what 32 bits hold. -/
def maxSide : Nat := 2 ^ 32 - 1

/-- **The side that a number stands for**: rounded, held to 32 bits, at least one. -/
def sideOf (x : Number) : Nat := max (x.round.toNatUpTo maxSide) 1

/-- The ratio that takes a side to another one. -/
def sideRatio (target side : Nat) : Number := .ofNat target / .ofNat side

/-- **The size of a `width` by `height` picture resized to fit inside `w` by `h`** with its aspect
ratio kept. -/
def fitDimensions (width height w h : Nat) : Nat × Nat :=
  let ratio := (sideRatio w width).lesser (sideRatio h height)
  (sideOf (.ofNat width * ratio), sideOf (.ofNat height * ratio))

/-- **The size that covers `w` by `h`** with the aspect ratio kept. A side that would
pass 32 bits is held by itself, and the other one is not made smaller with it. -/
def coverDimensions (width height w h : Nat) : Nat × Nat :=
  let ratio := (sideRatio w width).greater (sideRatio h height)
  (sideOf (.ofNat width * ratio), sideOf (.ofNat height * ratio))

/-- **The size with the aspect ratio `ratio` and one known side**; the width counts when both are
known, and there is none when neither is. -/
def aspectDimensions (w h : Option Nat) (ratio : Number) : Option (Nat × Nat) :=
  match w, h with
  | some w, _ => some (w, sideOf (.ofNat w / ratio))
  | none, some h => some (sideOf (.ofNat h * ratio), h)
  | none, none => none

end MediaTransform
