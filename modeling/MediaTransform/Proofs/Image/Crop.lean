import MediaTransform.Proofs.Image.Tasks
import MediaTransform.Proofs.Image.Window

/-! # Crops

A window is cut out pixel by pixel, and two crops are one:

* **`Buffer.Shows`** — contents that are decoded to a picture, in a format that keeps its windows;
  `shows_of_lossless` has most formats.
* **`Image.exists_apply_crop_iff`**, **`shows_of_apply_crop`** — which windows are cut out of such
  contents, and what is left.
* **`Image.crop_exact`** — one window, two windows, and runs. -/

namespace MediaTransform

/-! ## (1) Contents -/

namespace ImageFormat

/-- **A format keeps a picture**: written in it, the picture is decoded again as it was. -/
def Keeps (f : ImageFormat) (p : Picture) : Prop :=
  ∀ op, ∃ out f', Buffer.encode op p f = .ok out ∧ ∀ op', out.decode op' = .ok ⟨p, f'⟩

/-- **A format keeps the windows of a picture**, the whole picture among them. -/
def KeepsWindows (f : ImageFormat) (p : Picture) : Prop :=
  ∀ v : Window, v.FitsIn p.width p.height → f.Keeps (v.of p)

variable {f f' : ImageFormat} {p : Picture}

/-- **The formats without loss**: PNG is written in place of those that are not written back, bitmaps
and WebP have colours, and icons have colours and alpha. -/
structure IsLossless (f : ImageFormat) (c : ColourType) : Prop where
  lossy : f ≠ .jpeg ∧ f ≠ .gif
  coloured : f = .bmp ∨ f = .webp → c.coloured = true
  icon : f = .ico → c = .rgba8

/-- A picture in a format without loss is decoded as it is. -/
theorem IsLossless.picture? (h : f.IsLossless p.colour) (quality : Option Nat) :
    Encoded.picture? ⟨f, p, quality⟩ = some p := by
  obtain ⟨⟨hjpeg, hgif⟩, hcoloured, hicon⟩ := h
  have hinColour (alpha : Bool) (hc : p.colour.coloured = true) : Encoded.inColour alpha p = p :=
    if_pos hc
  unfold Encoded.picture?
  cases f with
  | jpeg => exact absurd rfl hjpeg
  | gif => exact absurd rfl hgif
  | ico => exact if_pos (hicon rfl)
  | bmp => exact congrArg some (hinColour false (hcoloured (.inl rfl)))
  | webp => exact congrArg some (hinColour true (hcoloured (.inr rfl)))
  | _ => rfl

theorem decode_encoded (h : f.IsLossless p.colour) (op : String) (quality : Option Nat) :
    (Buffer.encoded ⟨f, p, quality⟩).decode op = .ok ⟨p, f⟩ := by
  simp only [Buffer.decode, h.picture? quality]

theorem isLossless_png (c : ColourType) : png.IsLossless c where
  lossy := ⟨nofun, nofun⟩
  coloured := by rintro (h | h) <;> cases h
  icon := nofun

/-- **A format without loss keeps a picture**, be it in PNG. -/
theorem IsLossless.keeps (h : f.IsLossless p.colour) : f.Keeps p := by
  intro op
  unfold Buffer.encode
  rw [if_neg h.lossy.1]
  split
  · exact ⟨_, f, rfl, fun op' => decode_encoded h op' none⟩
  · exact ⟨_, png, rfl, fun op' => decode_encoded (isLossless_png _) op' none⟩

/-- What is written in a format has this format or is a PNG. -/
theorem format_of_encode {op op' : String} {out : Buffer} {q : Picture}
    (hencode : Buffer.encode op p f = .ok out) (hd : out.decode op' = .ok ⟨q, f'⟩) :
    f' = f ∨ f' = png := by
  have hformat {e : Encoded} (h : (Buffer.encoded e).decode op' = .ok ⟨q, f'⟩) :
      f' = e.format := by
    have houtline := congrArg (Option.map Prod.fst) (Buffer.outline?_of_decode h)
    exact (Option.some.inj houtline).symm
  unfold Buffer.encode at hencode
  split at hencode
  · rename_i hjpeg
    unfold Buffer.encodeJpeg at hencode
    split at hencode
    · cases hencode
      exact .inl ((hformat hd).trans hjpeg.symm)
    · cases hencode
  · split at hencode
    · cases hencode
      exact .inl (hformat hd)
    · cases hencode
      exact .inr (hformat hd)

/-- **Windows are kept in windows.** -/
theorem KeepsWindows.window (h : f.KeepsWindows p) {v : Window} (hv : v.FitsIn p.width p.height)
    (hf' : f' = f ∨ f' = png) : f'.KeepsWindows (v.of p) := by
  intro inner hinner
  rcases hf' with rfl | rfl
  -- in the same format, a window of the window is one of the picture
  · rw [Window.of_of hinner]
    exact h _ (hinner.inside hv)
  · exact (isLossless_png _).keeps

end ImageFormat

/-- **Contents show a picture** where they are decoded to it, in a format that keeps its windows. -/
def Buffer.Shows (b : Buffer) (p : Picture) : Prop :=
  ∃ f, (∀ op, b.decode op = .ok ⟨p, f⟩) ∧ f.KeepsWindows p

/-- **Contents in a format without loss** show what they are decoded to. -/
theorem Buffer.shows_of_lossless {b : Buffer} {op : String} {d : Decoded}
    (hd : b.decode op = .ok d) (h : d.format.IsLossless d.picture.colour) : b.Shows d.picture :=
  ⟨d.format, fun op' => decode_of_decode hd op', fun _ _ => ImageFormat.IsLossless.keeps h⟩

/-! ## (2) One window -/

namespace Image

section Crop

variable {ps : Params} {v : Window} {source out : Buffer} {p : Picture} {t : Task}

theorem cropChange_eq_ok_iff {x y w h : Nat} {q : Picture} :
    cropChange x y w h p = .ok q ↔
      (x + w ≤ p.width ∧ y + h ≤ p.height) ∧ p.crop x y w h = q := by
  unfold cropChange
  split
  · rename_i hinside
    exact ⟨fun h => ⟨hinside, Except.ok.inj h⟩, fun h => congrArg Except.ok h.2⟩
  · rename_i houtside
    exact ⟨nofun, fun h => absurd h.1 houtside⟩

/-- **The window that is read** is the one that parameters ask for, where 32 bits hold it. -/
theorem crop_eq_ok_iff :
    crop ps = .ok t ↔ ∃ v : Window, v.IsAskedBy ps ∧ (IsSide v.w ∧ IsSide v.h) ∧
      (v.x ≤ maxSide ∧ v.y ≤ maxSide) ∧ transform "c_crop" (cropChange v.x v.y v.w v.h) = t := by
  constructor
  · intro h
    obtain ⟨w, hw, h⟩ := bind_eq_ok_iff.1 h
    obtain ⟨h', hh, h⟩ := bind_eq_ok_iff.1 h
    obtain ⟨x, hx, h⟩ := bind_eq_ok_iff.1 h
    obtain ⟨y, hy, h⟩ := bind_eq_ok_iff.1 h
    obtain ⟨hw, hwside⟩ := Params.requireDimension_eq_ok_iff.1 hw
    obtain ⟨hh, hhside⟩ := Params.requireDimension_eq_ok_iff.1 hh
    obtain ⟨hx, hxle⟩ := Params.requireOffset_eq_ok_iff.1 hx
    obtain ⟨hy, hyle⟩ := Params.requireOffset_eq_ok_iff.1 hy
    exact ⟨⟨x, y, w, h'⟩, ⟨hx, hy, hw, hh⟩, ⟨hwside, hhside⟩, ⟨hxle, hyle⟩, Except.ok.inj h⟩
  · rintro ⟨v, hv, ⟨hw, hh⟩, ⟨hx, hy⟩, rfl⟩
    refine bind_eq_ok_iff.2 ⟨v.w, Params.requireDimension_eq_ok_iff.2 ⟨hv.w, hw⟩, ?_⟩
    refine bind_eq_ok_iff.2 ⟨v.h, Params.requireDimension_eq_ok_iff.2 ⟨hv.h, hh⟩, ?_⟩
    refine bind_eq_ok_iff.2 ⟨v.x, Params.requireOffset_eq_ok_iff.2 ⟨hv.x, hx⟩, ?_⟩
    exact bind_eq_ok_iff.2 ⟨v.y, Params.requireOffset_eq_ok_iff.2 ⟨hv.y, hy⟩, rfl⟩

/-- **What is cut out** is the window that is asked for, if it fits. -/
theorem apply_crop_eq_ok_iff {d : Buffer.Decoded} (hd : source.decode "c_crop" = .ok d)
    (hwidth : d.picture.width ≤ maxSide) (hheight : d.picture.height ≤ maxSide) :
    crop.apply source ps = .ok out ↔
      ∃ v : Window, v.IsAskedBy ps ∧ v.FitsIn d.picture.width d.picture.height ∧
        Buffer.encode "c_crop" (v.of d.picture) d.format = .ok out := by
  constructor
  · intro h
    obtain ⟨t, ht, h⟩ := bind_eq_ok_iff.1 h
    obtain ⟨v, hv, ⟨hw, hh⟩, -, rfl⟩ := crop_eq_ok_iff.1 ht
    obtain ⟨d', q, hd', hq, hencode⟩ := Task.apply_transform_eq_ok_iff.1 h
    cases hd.symm.trans hd'
    obtain ⟨⟨hacross, hdown⟩, rfl⟩ := cropChange_eq_ok_iff.1 hq
    exact ⟨v, hv, ⟨hw.1, hh.1, hacross, hdown⟩, hencode⟩
  · rintro ⟨v, hv, hfits, hencode⟩
    obtain ⟨hw, hh, hacross, hdown⟩ := hfits
    -- the numbers of a window that fits in a picture of 32 bits are themselves of 32 bits
    have hsides : IsSide v.w ∧ IsSide v.h := ⟨⟨hw, by omega⟩, ⟨hh, by omega⟩⟩
    refine bind_eq_ok_iff.2 ⟨_, crop_eq_ok_iff.2 ⟨v, hv, hsides, ⟨by omega, by omega⟩, rfl⟩, ?_⟩
    exact Task.apply_transform_eq_ok_iff.2
      ⟨d, _, hd, cropChange_eq_ok_iff.2 ⟨⟨hacross, hdown⟩, rfl⟩, hencode⟩

variable (hsource : source.Shows p) (hwidth : p.width ≤ maxSide) (hheight : p.height ≤ maxSide)
include hsource hwidth hheight

/-- **A window is cut out just where it fits.** -/
theorem exists_apply_crop_iff :
    (∃ out, crop.apply source ps = .ok out) ↔
      ∃ v : Window, v.IsAskedBy ps ∧ v.FitsIn p.width p.height := by
  obtain ⟨f, hd, hkeeps⟩ := hsource
  constructor
  · rintro ⟨out, h⟩
    obtain ⟨v, hv, hfits, -⟩ := (apply_crop_eq_ok_iff (hd _) hwidth hheight).1 h
    exact ⟨v, hv, hfits⟩
  · rintro ⟨v, hv, hfits⟩
    obtain ⟨out, -, hencode, -⟩ := hkeeps v hfits "c_crop"
    exact ⟨out, (apply_crop_eq_ok_iff (hd _) hwidth hheight).2 ⟨v, hv, hfits, hencode⟩⟩

/-- **What is left is shown**: the picture in the window, in a format that keeps its windows. -/
theorem shows_of_apply_crop (hv : v.IsAskedBy ps) (h : crop.apply source ps = .ok out) :
    v.FitsIn p.width p.height ∧ out.Shows (v.of p) := by
  obtain ⟨f, hd, hkeeps⟩ := hsource
  obtain ⟨v', hv', hfits, hencode⟩ := (apply_crop_eq_ok_iff (hd _) hwidth hheight).1 h
  obtain rfl := hv.unique hv'
  obtain ⟨out', f', hencode', hdecode⟩ := hkeeps v hfits "c_crop"
  cases hencode.symm.trans hencode'
  have hformat := ImageFormat.format_of_encode hencode (hdecode "c_crop")
  exact ⟨hfits, f', hdecode, hkeeps.window hfits hformat⟩

end Crop

/-! ## (3) Windows in turn -/

section Turns

variable {source out : Buffer} {p : Picture} {v v₁ v₂ : Window} {ps ps₁ ps₂ : Params}

/-- **Two crops**, one after the other. -/
def cropTwice (source : Buffer) (ps₁ ps₂ : Params) : Except Error Buffer :=
  (crop.apply source ps₁).bind (crop.apply · ps₂)

variable (hsource : source.Shows p) (hwidth : p.width ≤ maxSide) (hheight : p.height ≤ maxSide)
include hsource hwidth hheight

/-- What the first of two crops leaves, and that the second one is made of it. -/
theorem exists_of_cropTwice (hv₁ : v₁.IsAskedBy ps₁) (h : cropTwice source ps₁ ps₂ = .ok out) :
    ∃ middle, v₁.FitsIn p.width p.height ∧ middle.Shows (v₁.of p) ∧
      crop.apply middle ps₂ = .ok out := by
  obtain ⟨middle, hfirst, hsecond⟩ := bind_eq_ok_iff.1 h
  obtain ⟨hfits, hmiddle⟩ := shows_of_apply_crop hsource hwidth hheight hv₁ hfirst
  exact ⟨middle, hfits, hmiddle, hsecond⟩

/-- **The second window is cut out just where it fits in the first one.** -/
theorem exists_cropTwice_iff (hv₁ : v₁.IsAskedBy ps₁) (hv₂ : v₂.IsAskedBy ps₂) :
    (∃ out, cropTwice source ps₁ ps₂ = .ok out) ↔
      v₁.FitsIn p.width p.height ∧ v₂.FitsIn v₁.w v₁.h := by
  constructor
  · rintro ⟨out, h⟩
    obtain ⟨middle, hfits, hmiddle, hsecond⟩ := exists_of_cropTwice hsource hwidth hheight hv₁ h
    obtain ⟨hw, hh⟩ := hfits.sides_le hwidth hheight
    exact ⟨hfits, (shows_of_apply_crop hmiddle hw hh hv₂ hsecond).1⟩
  · rintro ⟨hfits, hfits₂⟩
    obtain ⟨middle, hfirst⟩ :=
      (exists_apply_crop_iff hsource hwidth hheight).2 ⟨v₁, hv₁, hfits⟩
    obtain ⟨-, hmiddle⟩ := shows_of_apply_crop hsource hwidth hheight hv₁ hfirst
    obtain ⟨hw, hh⟩ := hfits.sides_le hwidth hheight
    obtain ⟨out, hsecond⟩ := (exists_apply_crop_iff hmiddle hw hh).2 ⟨v₂, hv₂, hfits₂⟩
    exact ⟨out, bind_eq_ok_iff.2 ⟨middle, hfirst, hsecond⟩⟩

/-- **Two crops are one**, to the second window inside the first one. -/
theorem shows_of_cropTwice (hv₁ : v₁.IsAskedBy ps₁) (hv₂ : v₂.IsAskedBy ps₂)
    (hv : (v₂.inside v₁).IsAskedBy ps) (h : cropTwice source ps₁ ps₂ = .ok out) :
    ∃ out' q, crop.apply source ps = .ok out' ∧ out.Shows q ∧ out'.Shows q := by
  obtain ⟨middle, hfits, hmiddle, hsecond⟩ := exists_of_cropTwice hsource hwidth hheight hv₁ h
  obtain ⟨hw, hh⟩ := hfits.sides_le hwidth hheight
  obtain ⟨hfits₂, hout⟩ := shows_of_apply_crop hmiddle hw hh hv₂ hsecond
  obtain ⟨out', hsingle⟩ :=
    (exists_apply_crop_iff hsource hwidth hheight).2 ⟨_, hv, hfits₂.inside hfits⟩
  obtain ⟨-, hout'⟩ := shows_of_apply_crop hsource hwidth hheight hv hsingle
  rw [Window.of_of hfits₂] at hout
  exact ⟨out', _, hsingle, hout, hout'⟩

end Turns

/-- **Windows are cut out exactly, and they compose.** Of contents that show a picture, a crop cuts
out the window that is asked for just where it has pixels and lies inside; what is left shows the
pixels of the picture from the corner of the window on, in its colour type. Two crops cut out the
second window just where it fits in the first one, wherever it would lie in the picture, and leave
the same picture as the crop to the window inside the window. Runs with time do just that. -/
theorem crop_exact {source : Buffer} {p : Picture} (hsource : source.Shows p)
    (hwidth : p.width ≤ maxSide) (hheight : p.height ≤ maxSide) :
    (∀ ps, (∃ out, crop.apply source ps = .ok out) ↔
      ∃ v : Window, v.IsAskedBy ps ∧ v.FitsIn p.width p.height) ∧
    (∀ ps (v : Window) out, v.IsAskedBy ps → crop.apply source ps = .ok out →
      ∃ q, out.Shows q ∧ q.colour = p.colour ∧ q.width = v.w ∧ q.height = v.h ∧
        ∀ i < v.w, ∀ j < v.h, q.grid.at? i j = p.grid.at? (v.x + i) (v.y + j)) ∧
    (∀ ps₁ ps₂ (v₁ v₂ : Window), v₁.IsAskedBy ps₁ → v₂.IsAskedBy ps₂ →
      ((∃ out, cropTwice source ps₁ ps₂ = .ok out) ↔
        v₁.FitsIn p.width p.height ∧ v₂.FitsIn v₁.w v₁.h) ∧
      ∀ ps out, (v₂.inside v₁).IsAskedBy ps → cropTwice source ps₁ ps₂ = .ok out →
        ∃ out' q, crop.apply source ps = .ok out' ∧ out.Shows q ∧ out'.Shows q) ∧
    ∀ config : Config.Pipeline, config.imageTimeoutSecs ≠ 0 → ∀ s₁ s₂ found₁ found₂,
      (registry config).resolve s₁ = some found₁ → found₁.tag = "c_crop" →
      (registry config).resolve s₂ = some found₂ → found₂.tag = "c_crop" → ∀ out,
        (run config source [s₁] = .ok out ↔ crop.apply source found₁.params = .ok out) ∧
        (run config source [s₁, s₂] = .ok out ↔
          cropTwice source found₁.params found₂.params = .ok out) := by
  refine ⟨fun ps => exists_apply_crop_iff hsource hwidth hheight, fun ps v out hv h => ?_,
    fun ps₁ ps₂ v₁ v₂ hv₁ hv₂ => ⟨exists_cropTwice_iff hsource hwidth hheight hv₁ hv₂,
      fun ps out hv h => shows_of_cropTwice hsource hwidth hheight hv₁ hv₂ hv h⟩,
    fun config htime s₁ s₂ found₁ found₂ hfound₁ htag₁ hfound₂ htag₂ out => ?_⟩
  · obtain ⟨hfits, hout⟩ := shows_of_apply_crop hsource hwidth hheight hv h
    exact ⟨v.of p, hout, rfl, rfl, rfl, fun i hi j hj => Window.at?_of hfits hi hj⟩
  · have hop (tag : String) (htag : tag = "c_crop") : (tag, crop) ∈ operations config := by
      rw [htag]
      simp [operations]
    have hdone (b : Buffer) : run config b [] = .ok b := rfl
    simp only [run_cons_eq_ok_iff htime hfound₁ (hop _ htag₁),
      run_cons_eq_ok_iff htime hfound₂ (hop _ htag₂), hdone, Except.ok.injEq, exists_eq_right,
      cropTwice, bind_eq_ok_iff, true_and]

/-- Parameters that ask for a window by its numbers. -/
def askFor (v : Window) : Params :=
  .ofList [("x", .number (.ofNat v.x)), ("y", .number (.ofNat v.y)), ("w", .number (.ofNat v.w)),
    ("h", .number (.ofNat v.h))]

/-- A picture of 4 by 3 pixels that tell where they are. -/
def tiles : Picture := ⟨.rgba8, Grid.ofFn 4 3 fun x y => ⟨x, y, 0, 255⟩⟩

/-- One pixel of a window of 3 by 2 pixels is one pixel of the picture; a row of three pixels that
fits in the picture does not fit in the window. -/
theorem crop_exact_tiles :
    (∃ out out' q,
      cropTwice (Buffer.encodePng tiles) (askFor ⟨1, 1, 3, 2⟩) (askFor ⟨1, 0, 1, 1⟩) = .ok out ∧
      crop.apply (Buffer.encodePng tiles) (askFor ⟨2, 1, 1, 1⟩) = .ok out' ∧
      out.Shows q ∧ out'.Shows q) ∧
    (∃ out, crop.apply (Buffer.encodePng tiles) (askFor ⟨1, 0, 3, 1⟩) = .ok out) ∧
    ¬∃ out, cropTwice (Buffer.encodePng tiles) (askFor ⟨1, 1, 3, 2⟩) (askFor ⟨1, 0, 3, 1⟩)
      = .ok out := by
  have hdecode : (Buffer.encodePng tiles).decode "" = .ok ⟨tiles, .png⟩ := rfl
  have hsource : (Buffer.encodePng tiles).Shows tiles :=
    Buffer.shows_of_lossless hdecode (ImageFormat.isLossless_png _)
  have hasked {v : Window} {ps : Params} (hx : ps.requireOffset "" "x" = .ok v.x)
      (hy : ps.requireOffset "" "y" = .ok v.y) (hw : ps.requireDimension "" "w" = .ok v.w)
      (hh : ps.requireDimension "" "h" = .ok v.h) : v.IsAskedBy ps :=
    ⟨(Params.requireOffset_eq_ok_iff.1 hx).1, (Params.requireOffset_eq_ok_iff.1 hy).1,
      (Params.requireDimension_eq_ok_iff.1 hw).1, (Params.requireDimension_eq_ok_iff.1 hh).1⟩
  have houter : Window.IsAskedBy ⟨1, 1, 3, 2⟩ (askFor ⟨1, 1, 3, 2⟩) := by
    apply hasked <;> decide +kernel
  have hinner : Window.IsAskedBy ⟨1, 0, 1, 1⟩ (askFor ⟨1, 0, 1, 1⟩) := by
    apply hasked <;> decide +kernel
  have hsingle : Window.IsAskedBy ⟨2, 1, 1, 1⟩ (askFor ⟨2, 1, 1, 1⟩) := by
    apply hasked <;> decide +kernel
  have hrow : Window.IsAskedBy ⟨1, 0, 3, 1⟩ (askFor ⟨1, 0, 3, 1⟩) := by
    apply hasked <;> decide +kernel
  obtain ⟨hone, -, htwo, -⟩ := crop_exact hsource (by decide) (by decide)
  obtain ⟨hexists, hcompose⟩ := htwo _ _ _ _ houter hinner
  obtain ⟨out, hout⟩ := hexists.2 ⟨⟨by decide, by decide, by decide, by decide⟩,
    ⟨by decide, by decide, by decide, by decide⟩⟩
  obtain ⟨out', q, hout', hq, hq'⟩ := hcompose _ out hsingle hout
  refine ⟨⟨out, out', q, hout, hout', hq, hq'⟩,
    (hone _).2 ⟨_, hrow, by decide, by decide, by decide, by decide⟩, fun hboth => ?_⟩
  obtain ⟨-, hfits⟩ := (htwo _ _ _ _ houter hrow).1.1 hboth
  exact absurd hfits.across (by decide)

end Image

end MediaTransform
