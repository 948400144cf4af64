import MediaTransform.Proofs.Image.Tasks
import MediaTransform.Proofs.Image.Window

/-! # Padded pictures

* **`Window.Contains`**, **`Window.IsCentredIn`** — the positions of a window, and windows in the
  middle of a canvas.
* **`Picture.IsPadded`** — a canvas that shows a picture in a window, and a background elsewhere;
  `isPadded_onCanvas` is where a picture that fits is put on a canvas.
* **`Image.padPlace`** — where a padded picture lies; `isCentredIn_padPlace`.
* **`Image.pad_placed`** — the canvas that a request to pad makes. -/

namespace MediaTransform

/-! ## (1) Places -/

namespace Window

/-- **A window contains a position.** -/
def Contains (v : Window) (x y : Nat) : Prop :=
  (v.x ≤ x ∧ x < v.x + v.w) ∧ (v.y ≤ y ∧ y < v.y + v.h)

/-- **A window lies in the middle of a canvas**: it fits, and opposite margins differ by one pixel at
most. -/
structure IsCentredIn (v : Window) (width height : Nat) : Prop where
  fits : v.FitsIn width height
  across : v.x ≤ width - (v.x + v.w) ∧ width - (v.x + v.w) ≤ v.x + 1
  down : v.y ≤ height - (v.y + v.h) ∧ height - (v.y + v.h) ≤ v.y + 1

/-- Half of the room that is left is before a window in the middle. -/
theorem isCentredIn_half {width height w h : Nat} (hw : 1 ≤ w ∧ w ≤ width)
    (hh : 1 ≤ h ∧ h ≤ height) :
    IsCentredIn ⟨(width - w) / 2, (height - h) / 2, w, h⟩ width height where
  fits := ⟨hw.1, hh.1, by dsimp only; omega, by dsimp only; omega⟩
  across := by dsimp only; omega
  down := by dsimp only; omega

end Window

namespace Pixel

variable {front back : Pixel}

theorem onto_of_full (h : front.alpha = 255) : front.onto back = front := by
  rw [onto, if_neg (by omega), if_pos h]

theorem onto_of_clear (h : front.alpha = 0) : front.onto back = back := if_pos h

end Pixel

/-! ## (2) Canvases -/

namespace Picture

/-- **A canvas shows a picture in a window, and a background elsewhere**: its pixels are those of the
picture where these are opaque, and the background where they are fully transparent and outside of
the window. -/
structure IsPadded (canvas fitted : Picture) (place : Window) (back : Pixel) : Prop where
  width : fitted.width = place.w
  height : fitted.height = place.h
  outside : ∀ x < canvas.width, ∀ y < canvas.height, ¬place.Contains x y →
    canvas.grid.at? x y = some back
  inside : ∀ i < place.w, ∀ j < place.h, ∃ front, fitted.grid.at? i j = some front ∧
    (front.alpha = 255 → canvas.grid.at? (place.x + i) (place.y + j) = some front) ∧
    (front.alpha = 0 → canvas.grid.at? (place.x + i) (place.y + j) = some back)

variable {p : Picture} {w h left top x y i j : Nat} {background : Colour}

/-- The background is left where the picture has no pixel. -/
theorem at?_onCanvas_outside (hx : x < w) (hy : y < h)
    (hout : ¬Window.Contains ⟨left, top, p.width, p.height⟩ x y) :
    (p.onCanvas w h left top background).grid.at? x y = some (Pixel.ofColour background) := by
  rw [onCanvas, Grid.at?_ofFn, if_pos ⟨hx, hy⟩]
  split
  · rename_i hcorner
    -- beyond the corner, and so beyond a side
    have hnone : p.grid.at? (x - left) (y - top) = none := by
      rw [← Option.not_isSome_iff_eq_none, Grid.isSome_at?_iff]
      rintro ⟨hi, hj⟩
      refine hout ⟨⟨hcorner.1, ?_⟩, hcorner.2, ?_⟩
      · show x < left + p.grid.width
        omega
      · show y < top + p.grid.height
        omega
    rw [hnone]
  · rfl

/-- A pixel of the picture is put onto the background. -/
theorem at?_onCanvas_inside (hx : left + i < w) (hy : top + j < h) {front : Pixel}
    (hfront : p.grid.at? i j = some front) :
    (p.onCanvas w h left top background).grid.at? (left + i) (top + j)
      = some (front.onto (Pixel.ofColour background)) := by
  rw [onCanvas, Grid.at?_ofFn, if_pos ⟨hx, hy⟩,
    if_pos ⟨Nat.le_add_right _ _, Nat.le_add_right _ _⟩, Nat.add_sub_cancel_left,
    Nat.add_sub_cancel_left, hfront]

/-- **A picture is put on a canvas where it fits.** -/
theorem isPadded_onCanvas (hfits : Window.FitsIn ⟨left, top, p.width, p.height⟩ w h) :
    (p.onCanvas w h left top background).IsPadded p ⟨left, top, p.width, p.height⟩
      (Pixel.ofColour background) where
  width := rfl
  height := rfl
  outside x hx y hy hout := at?_onCanvas_outside hx hy hout
  inside i hi j hj := by
    have hacross : left + i < w := by
      have := hfits.across
      dsimp only at this hi
      omega
    have hdown : top + j < h := by
      have := hfits.down
      dsimp only at this hj
      omega
    obtain ⟨front, hfront⟩ := Option.isSome_iff_exists.1 ((p.grid.isSome_at?_iff i j).2 ⟨hi, hj⟩)
    have hput : (p.onCanvas w h left top background).grid.at? (left + i) (top + j) = _ :=
      at?_onCanvas_inside hacross hdown hfront
    refine ⟨front, hfront, fun hfull => ?_, fun hclear => ?_⟩
    · rw [hput, Pixel.onto_of_full hfull]
    · rw [hput, Pixel.onto_of_clear hclear]

end Picture

/-! ## (3) Requests -/

namespace Image

/-- **Where a padded picture lies on its canvas**: in its size inside the box, in the middle. -/
def padPlace (p : Picture) (w h : Nat) : Window :=
  let size := fitDimensions p.width p.height w h
  ⟨(w - size.1) / 2, (h - size.2) / 2, size.1, size.2⟩

/-- **The colour that a request to pad asks for**: that of its text `b`, or black where there is none
or no colour in it. -/
def padColour (ps : Params) : Colour := ((ps.text? "b").bind Colour.ofText?).getD .black

variable {source : Buffer} {d : Buffer.Decoded} {p : Picture} {ps : Params} {w h limit : Nat}

theorem ofValue_eq_padColour (ps : Params) :
    Colour.ofValue .black (ps.get? "b") = padColour ps := by
  unfold padColour Params.text?
  cases ps.get? "b" with
  | none => rfl
  | some v =>
    cases v with
    | number x => rfl
    | text t => simp only [Colour.ofValue, Value.text?, Option.bind_some]

/-- **A padded picture lies in the middle of its canvas.** -/
theorem isCentredIn_padPlace (hwidth : p.width ≤ maxSide) (hheight : p.height ≤ maxSide)
    (hw : IsSide w) (hh : IsSide h) : (padPlace p w h).IsCentredIn w h := by
  obtain ⟨hinw, hinh, -⟩ := fitDimensions_inside hwidth hheight hw hh
  exact Window.isCentredIn_half hinw hinh

/-- What is padded is the picture on a canvas, at its place. -/
theorem pad_eq_onCanvas (hw : IsSide w) (hh : IsSide h) (background : Colour) :
    p.pad w h background = (p.fitInside w h).toRgba8.onCanvas w h (padPlace p w h).x
      (padPlace p w h).y background := by
  simp only [Picture.pad, padPlace, Picture.width_toRgba8, Picture.height_toRgba8,
    p.width_fitInside hw hh, p.height_fitInside hw hh]

/-- **Padding puts the fitted picture in the middle of a canvas.** For every picture of 32 bits and
every request within the limit, the canvas that is written has just the sides that are asked for and
8 bits of colour and alpha. The picture in its size inside the box lies in the middle of it, with
opposite margins that differ by one pixel at most. All around it there is the colour that is asked
for; inside there are its own pixels where they are opaque, and that colour where they are fully
transparent. -/
theorem pad_placed (hd : source.decode "c_pad" = .ok d) (hwidth : d.picture.width ≤ maxSide)
    (hheight : d.picture.height ≤ maxSide) (hw : ps.requireDimension "c_pad" "w" = .ok w)
    (hh : ps.requireDimension "c_pad" "h" = .ok h) (hlimit : w * h ≤ limit) :
    (pad limit).apply source ps
      = Buffer.encode "c_pad" (d.picture.pad w h (padColour ps)) d.format ∧
    (d.picture.pad w h (padColour ps)).colour = .rgba8 ∧
    (d.picture.pad w h (padColour ps)).width = w ∧
    (d.picture.pad w h (padColour ps)).height = h ∧
    (padPlace d.picture w h).IsCentredIn w h ∧
    (d.picture.pad w h (padColour ps)).IsPadded (d.picture.fitInside w h).toRgba8
      (padPlace d.picture w h) (Pixel.ofColour (padColour ps)) := by
  have hsidew := Params.isSide_of_requireDimension hw
  have hsideh := Params.isSide_of_requireDimension hh
  have hplace := isCentredIn_padPlace hwidth hheight hsidew hsideh
  refine ⟨?_, rfl, rfl, rfl, hplace, ?_⟩
  · have htask : pad limit ps
        = .ok (transform "c_pad" fun p => .ok (p.pad w h (padColour ps))) := by
      rw [← ofValue_eq_padColour]
      exact bind_eq_ok_iff.2 ⟨w, hw, bind_eq_ok_iff.2 ⟨h, hh, bind_eq_ok_iff.2
        ⟨(), checkOutputSize_eq_ok_iff.2 hlimit, rfl⟩⟩⟩
    exact apply_of_transform htask hd rfl
  -- the fitted picture is just as large as its place
  · have hsize : padPlace d.picture w h = ⟨(padPlace d.picture w h).x, (padPlace d.picture w h).y,
        (d.picture.fitInside w h).toRgba8.width, (d.picture.fitInside w h).toRgba8.height⟩ := by
      rw [Picture.width_toRgba8, Picture.height_toRgba8, d.picture.width_fitInside hsidew hsideh,
        d.picture.height_fitInside hsidew hsideh]
      rfl
    rw [pad_eq_onCanvas hsidew hsideh]
    rw [hsize] at hplace ⊢
    exact Picture.isPadded_onCanvas hplace.fits

/-- A row of three pixels, the middle one fully transparent. -/
def dots : Picture := ⟨.rgba8, Grid.ofFn 3 1 fun x _ => ⟨200, 0, 0, if x = 1 then 0 else 255⟩⟩

/-- Parameters for a blue canvas of 3 by 4 pixels. -/
def blueParams : Params :=
  .ofList [("w", .number (.ofNat 3)), ("h", .number (.ofNat 4)), ("b", .text " Blue ")]

/-- The row lies in the second row of its canvas, and there is blue above it and in its middle. -/
theorem pad_placed_dots :
    (pad 12).apply (Buffer.encodePng dots) blueParams
      = Buffer.encode "c_pad" (dots.pad 3 4 (padColour blueParams)) .png ∧
    Pixel.ofColour (padColour blueParams) = ⟨0, 0, 255, 255⟩ ∧
    (dots.pad 3 4 (padColour blueParams)).grid.at? 0 0 = some ⟨0, 0, 255, 255⟩ ∧
    (dots.pad 3 4 (padColour blueParams)).grid.at? 0 1 = some ⟨200, 0, 0, 255⟩ ∧
    (dots.pad 3 4 (padColour blueParams)).grid.at? 1 1 = some ⟨0, 0, 255, 255⟩ := by
  have hdecode : (Buffer.encodePng dots).decode "c_pad" = .ok ⟨dots, .png⟩ := rfl
  obtain ⟨happly, -, -, -, -, hpadded⟩ := pad_placed hdecode (by decide) (by decide)
    (by decide +kernel : blueParams.requireDimension "c_pad" "w" = .ok 3)
    (by decide +kernel : blueParams.requireDimension "c_pad" "h" = .ok 4)
    (by decide : 3 * 4 ≤ 12)
  have hblue : Pixel.ofColour (padColour blueParams) = ⟨0, 0, 255, 255⟩ := by decide +kernel
  have hplace : padPlace dots 3 4 = ⟨0, 1, 3, 1⟩ := by decide +kernel
  have hred : (dots.fitInside 3 4).toRgba8.grid.at? 0 0 = some ⟨200, 0, 0, 255⟩ := by
    decide +kernel
  have hclear : (dots.fitInside 3 4).toRgba8.grid.at? 1 0 = some ⟨200, 0, 0, 0⟩ := by
    decide +kernel
  rw [hblue, hplace] at hpadded
  obtain ⟨front, hfront, hfull, -⟩ := hpadded.inside 0 (by decide) 0 (by decide)
  obtain ⟨middle, hmiddle, -, hhole⟩ := hpadded.inside 1 (by decide) 0 (by decide)
  cases hred.symm.trans hfront
  cases hclear.symm.trans hmiddle
  refine ⟨happly, hblue, hpadded.outside 0 (by decide) 0 (by decide) ?_, hfull rfl, hhole rfl⟩
  rintro ⟨-, hrow, -⟩
  exact absurd hrow (by decide)

end Image

end MediaTransform
