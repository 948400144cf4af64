import MediaTransform.Proofs.Image.Crop
import MediaTransform.Proofs.Number.Nearest

/-! # Pictures over a background

Flattening blends every channel with the background, rounded to the nearest integer; a picture that
is flattened stays as it is over any other background.

* **`Pixel.IsBlend`** — what a blended channel is; `isBlend_blend` has it for every blend, and
  `toNat_blend32` says that 32 bits are enough.
* **`Picture.IsFlattened`** — a picture over a background, pixel by pixel.
* **`ImageFormat.KeepsRgb8`** — the formats that keep colours of 8 bits; `keepsRgb8_iff` says which
  these are.
* **`Image.flatten_rounds_and_absorbs`** — both together. -/

namespace MediaTransform

/-! ## (1) Channels -/

namespace Pixel

/-- **The exact blend of a channel** with a background. -/
def exactBlend (front back alpha : Nat) : ℚ := (front * alpha + back * (255 - alpha)) / 255

/-- **A blended channel**: the integer nearest to the exact blend, which lies between the channel and
the background, is one of them where alpha is full or zero, and has 8 bits. What is divided for it
has 32 bits. -/
structure IsBlend (front back alpha out : Nat) : Prop where
  nearest : ∀ k : Int, k ≠ out →
    |(out : ℚ) - exactBlend front back alpha| < |(k : ℚ) - exactBlend front back alpha|
  between : min front back ≤ out ∧ out ≤ max front back
  full : alpha = 255 → out = front
  clear : alpha = 0 → out = back
  wide : front * alpha + back * (255 - alpha) + 127 < 2 ^ 32
  narrow : out ≤ 255

variable {front front' back back' alpha : Nat}

/-- Adding the largest part below a half rounds to nearest, as no blend lies in the middle. -/
theorem blend_eq_nearest (front back alpha : Nat) :
    blend front back alpha = Number.nearest (front * alpha + back * (255 - alpha)) 255 := by
  unfold blend Number.nearest
  dsimp only
  generalize front * alpha + back * (255 - alpha) = num
  -- 255 is odd, so that no rest is its half
  split
  · omega
  · split <;> omega

theorem exactBlend_eq (h : alpha ≤ 255) :
    exactBlend front back alpha
      = ((front * alpha + back * (255 - alpha) : Nat) : ℚ) / (255 : Nat) := by
  rw [exactBlend]
  push_cast [Nat.cast_sub h]
  rfl

/-- **A blend is rounded to nearest**: every other integer is further away. -/
theorem abs_blend_sub_lt (h : alpha ≤ 255) {k : Int} (hk : k ≠ blend front back alpha) :
    |(blend front back alpha : ℚ) - exactBlend front back alpha|
      < |(k : ℚ) - exactBlend front back alpha| := by
  have hhalf : |(blend front back alpha : ℚ) - exactBlend front back alpha| < 1 / 2 := by
    rw [blend_eq_nearest, exactBlend_eq h]
    exact Number.abs_nearest_sub_lt (by decide) (by omega)
  have hone := Number.one_le_abs_sub_add hk (exactBlend front back alpha)
  rw [Int.cast_natCast] at hone
  linarith

/-- A blend grows with the channel and with the background. -/
theorem blend_mono (hfront : front ≤ front') (hback : back ≤ back') (alpha : Nat) :
    blend front back alpha ≤ blend front' back' alpha := by
  unfold blend
  gcongr

/-- A channel over itself. -/
theorem blend_self (h : alpha ≤ 255) (v : Nat) : blend v v alpha = v := by
  rw [blend, ← Nat.mul_add, Nat.add_sub_cancel' h]
  omega

@[simp] theorem blend_full (front back : Nat) : blend front back 255 = front := by
  rw [blend]
  omega

@[simp] theorem blend_clear (front back : Nat) : blend front back 0 = back := by
  rw [blend]
  omega

/-- **A blend lies between** the channel and the background. -/
theorem blend_between (h : alpha ≤ 255) :
    min front back ≤ blend front back alpha ∧ blend front back alpha ≤ max front back := by
  constructor
  · calc min front back = blend (min front back) (min front back) alpha := (blend_self h _).symm
      _ ≤ blend front back alpha := blend_mono (min_le_left _ _) (min_le_right _ _) alpha
  · calc blend front back alpha ≤ blend (max front back) (max front back) alpha :=
          blend_mono (le_max_left _ _) (le_max_right _ _) alpha
      _ = max front back := blend_self h _

/-- What is divided for a blend of bytes. -/
theorem blend_wide (hfront : front ≤ 255) (hback : back ≤ 255) (halpha : alpha ≤ 255) :
    front * alpha + back * (255 - alpha) + 127 ≤ 255 * 255 + 127 := by
  calc front * alpha + back * (255 - alpha) + 127
      ≤ 255 * alpha + 255 * (255 - alpha) + 127 := by gcongr
    _ = 255 * 255 + 127 := by omega

/-- **Blends of bytes are blends.** -/
theorem isBlend_blend (hfront : front ≤ 255) (hback : back ≤ 255) (halpha : alpha ≤ 255) :
    IsBlend front back alpha (blend front back alpha) where
  nearest _ hk := abs_blend_sub_lt halpha hk
  between := blend_between halpha
  full h := h ▸ blend_full front back
  clear h := h ▸ blend_clear front back
  wide := (blend_wide hfront hback halpha).trans_lt (by decide)
  narrow := (blend_between halpha).2.trans (max_le hfront hback)

/-- The same in 32 bits, where sums and products wrap around. -/
def blend32 (front back alpha : UInt8) : UInt8 :=
  ((front.toUInt32 * alpha.toUInt32 + back.toUInt32 * (255 - alpha.toUInt32) + 127) / 255).toUInt8

/-- **Nothing wraps around** in a blend of bytes. -/
theorem toNat_blend32 (front back alpha : UInt8) :
    (blend32 front back alpha).toNat = blend front.toNat back.toNat alpha.toNat := by
  have hfront : front.toNat ≤ 255 := Nat.le_of_lt_succ front.toNat_lt
  have hback : back.toNat ≤ 255 := Nat.le_of_lt_succ back.toNat_lt
  have halpha : alpha.toNat ≤ 255 := Nat.le_of_lt_succ alpha.toNat_lt
  have hwide := blend_wide hfront hback halpha
  have hnarrow := (isBlend_blend hfront hback halpha).narrow
  have hsub : ((255 : UInt32) - alpha.toUInt32).toNat = 255 - alpha.toNat :=
    UInt32.toNat_sub_of_le _ _ (UInt32.le_iff_toNat_le.2 halpha)
  unfold blend at hnarrow ⊢
  rw [blend32, UInt32.toNat_toUInt8, UInt32.toNat_div, UInt32.toNat_add, UInt32.toNat_add,
    UInt32.toNat_mul, UInt32.toNat_mul, hsub]
  simp only [UInt8.toNat_toUInt32, UInt32.reduceToNat]
  generalize front.toNat * alpha.toNat = a at *
  generalize back.toNat * (255 - alpha.toNat) = b at *
  omega

/-! ## (2) Pixels -/

/-- Channels up to a limit. -/
structure IsWithin (limit : Nat) (c : Pixel) : Prop where
  red : c.red ≤ limit
  green : c.green ≤ limit
  blue : c.blue ≤ limit
  alpha : c.alpha ≤ limit

/-- **A pixel over a background**: its colours are blended, and it is opaque. -/
structure IsOver (front : Pixel) (background : Colour) (out : Pixel) : Prop where
  red : IsBlend front.red background.red.toNat front.alpha out.red
  green : IsBlend front.green background.green.toNat front.alpha out.green
  blue : IsBlend front.blue background.blue.toNat front.alpha out.blue
  alpha : out.alpha = 255

/-- A pixel with no larger colours. -/
structure IsBelow (c c' : Pixel) : Prop where
  red : c.red ≤ c'.red
  green : c.green ≤ c'.green
  blue : c.blue ≤ c'.blue

variable {c c' d d' : Pixel}

theorem isOver_flattenOver (h : c.IsWithin 255) (background : Colour) :
    c.IsOver background (c.flattenOver (ofColour background)) := by
  have hbyte (b : UInt8) : b.toNat ≤ 255 := Nat.le_of_lt_succ b.toNat_lt
  exact ⟨isBlend_blend h.red (hbyte _) h.alpha, isBlend_blend h.green (hbyte _) h.alpha,
    isBlend_blend h.blue (hbyte _) h.alpha, rfl⟩

theorem IsBelow.flattenOver (h : c.IsBelow c') (halpha : c.alpha = c'.alpha) (h' : d.IsBelow d') :
    (c.flattenOver d).IsBelow (c'.flattenOver d') := by
  refine ⟨?_, ?_, ?_⟩ <;> simp only [Pixel.flattenOver, halpha]
  · exact blend_mono h.red h'.red _
  · exact blend_mono h.green h'.green _
  · exact blend_mono h.blue h'.blue _

/-- **A pixel over a background is opaque**, so it stays as it is over another one. -/
theorem flattenOver_flattenOver (c d d' : Pixel) :
    (c.flattenOver d).flattenOver d' = c.flattenOver d := by
  simp only [Pixel.flattenOver, blend_full]

theorem IsWithin.narrow (h : c.IsWithin 65535) : (c.map MediaTransform.narrow).IsWithin 255 := by
  have hnarrow {v : Nat} (hv : v ≤ 65535) : MediaTransform.narrow v ≤ 255 := by
    unfold MediaTransform.narrow
    omega
  exact ⟨hnarrow h.red, hnarrow h.green, hnarrow h.blue, hnarrow h.alpha⟩

end Pixel

/-! ## (3) Pictures -/

namespace Picture

/-- **Channels as deep as the colour type says.** -/
def InRange (p : Picture) : Prop :=
  ∀ x y c, p.grid.at? x y = some c → c.IsWithin p.colour.limit

/-- **A picture over a background**: its colours have 8 bits and it has no alpha, and every pixel is
the one of the source with colour and alpha in 8 bits, over the background. -/
structure IsFlattened (source : Picture) (background : Colour) (p : Picture) : Prop where
  colour : p.colour = .rgb8
  sides : p.grid.sides = source.grid.sides
  pixels : ∀ x y front, source.toRgba8.grid.at? x y = some front →
    ∃ out, p.grid.at? x y = some out ∧ front.IsOver background out

/-- **A picture with no larger colours**, in 8 bits, and the same alpha. -/
def IsBelow (p q : Picture) : Prop :=
  ∀ x y c c', p.toRgba8.grid.at? x y = some c → q.toRgba8.grid.at? x y = some c' →
    c.IsBelow c' ∧ c.alpha = c'.alpha

variable {p q : Picture} {background background' : Colour}

theorem at?_flatten (p : Picture) (background : Colour) (x y : Nat) :
    (p.flatten background).grid.at? x y
      = (p.toRgba8.grid.at? x y).map (Pixel.flattenOver · (Pixel.ofColour background)) :=
  Grid.at?_map _ _ _ _

/-- In 8 bits, channels are bytes. -/
theorem InRange.toRgba8 (h : p.InRange) {x y : Nat} {c : Pixel}
    (hc : p.toRgba8.grid.at? x y = some c) : c.IsWithin 255 := by
  change p.narrowed.at? x y = some c at hc
  unfold narrowed at hc
  split at hc
  · rename_i hdeep
    rw [Grid.at?_map] at hc
    obtain ⟨c', hc', rfl⟩ := Option.map_eq_some_iff.1 hc
    have hlimit := h x y c' hc'
    rw [ColourType.limit, if_pos hdeep] at hlimit
    exact hlimit.narrow
  · rename_i hdeep
    have hlimit := h x y c hc
    rwa [ColourType.limit, if_neg hdeep] at hlimit

/-- **Flattening puts a picture over its background.** -/
theorem isFlattened_flatten (h : p.InRange) (background : Colour) :
    p.IsFlattened background (p.flatten background) where
  colour := rfl
  sides := congrArg₂ Prod.mk (p.width_flatten background) (p.height_flatten background)
  pixels x y front hfront := by
    rw [at?_flatten, hfront]
    exact ⟨_, rfl, Pixel.isOver_flattenOver (h.toRgba8 hfront) background⟩

/-- **Flattening grows** with the picture and with the background. -/
theorem IsBelow.flatten (h : p.IsBelow q)
    (hback : (Pixel.ofColour background).IsBelow (Pixel.ofColour background')) {x y : Nat}
    {c c' : Pixel} (hc : (p.flatten background).grid.at? x y = some c)
    (hc' : (q.flatten background').grid.at? x y = some c') : c.IsBelow c' := by
  rw [at?_flatten] at hc hc'
  obtain ⟨front, hfront, rfl⟩ := Option.map_eq_some_iff.1 hc
  obtain ⟨front', hfront', rfl⟩ := Option.map_eq_some_iff.1 hc'
  obtain ⟨hbelow, halpha⟩ := h x y front front' hfront hfront'
  exact hbelow.flattenOver halpha hback

/-- **A flattened picture stays as it is** over any other background. -/
theorem flatten_flatten (p : Picture) (background background' : Colour) :
    (p.flatten background).flatten background' = p.flatten background := by
  have hpixels : (Pixel.flattenOver · (Pixel.ofColour background')) ∘
      (Pixel.flattenOver · (Pixel.ofColour background))
      = (Pixel.flattenOver · (Pixel.ofColour background)) :=
    funext fun c => Pixel.flattenOver_flattenOver c _ _
  calc (p.flatten background).flatten background'
      = ⟨.rgb8, (p.flatten background).grid.map (Pixel.flattenOver · (Pixel.ofColour background'))⟩ :=
        rfl
    _ = p.flatten background := by
        rw [flatten, Grid.map_map, hpixels]

end Picture

/-! ## (4) Formats -/

namespace ImageFormat

/-- **A format keeps colours of 8 bits**: every picture of them, written in it, is decoded again as it
was. -/
def KeepsRgb8 (f : ImageFormat) : Prop := ∀ p : Picture, p.colour = .rgb8 → f.Keeps p

variable {f : ImageFormat}

/-- **Which formats keep colours of 8 bits**: all but JPEG and GIF, which lose some, and icons, which
are not read without alpha. -/
theorem keepsRgb8_iff : f.KeepsRgb8 ↔ f ≠ .jpeg ∧ f ≠ .gif ∧ f ≠ .ico := by
  constructor
  · intro h
    refine ⟨?_, ?_, ?_⟩ <;> rintro rfl
    · -- a side is too long
      obtain ⟨out, f', hencode, -⟩ := h ⟨.rgb8, Grid.replicate 65536 0 default⟩ rfl ""
      cases hencode
    · obtain ⟨out, f', hencode, hdecode⟩ := h ⟨.rgb8, Grid.replicate 0 0 default⟩ rfl ""
      cases hencode
      have hcolour := congrArg (fun d => d.toOption.map (·.picture.colour)) (hdecode "")
      cases hcolour
    · obtain ⟨out, f', hencode, hdecode⟩ := h ⟨.rgb8, Grid.replicate 0 0 default⟩ rfl ""
      cases hencode
      cases hdecode ""
  · rintro ⟨hjpeg, hgif, hico⟩ p hp
    exact IsLossless.keeps ⟨⟨hjpeg, hgif⟩, fun _ => hp ▸ rfl, fun h => absurd h hico⟩

end ImageFormat

/-- **What is written is written again** in the format that it has. -/
theorem Buffer.encode_again {op op' : String} {f f' : ImageFormat} {p q : Picture} {out : Buffer}
    (hf : f ≠ .jpeg) (hencode : encode op p f = .ok out) (hd : out.decode op' = .ok ⟨q, f'⟩) :
    encode op p f' = .ok out := by
  have hformat (e : Encoded) (he : out = .encoded e) : e.format = f' := by
    have houtline := outline?_of_decode (he ▸ hd)
    exact congrArg Prod.fst (Option.some.inj houtline)
  unfold encode at hencode
  rw [if_neg hf] at hencode
  split at hencode
  · rename_i hback
    cases hencode
    obtain rfl : f = f' := hformat _ rfl
    rw [encode, if_neg hf, if_pos hback]
  · cases hencode
    -- a PNG, whether it is in place of another format or not
    obtain rfl : ImageFormat.png = f' := hformat _ rfl
    rw [encode, if_neg nofun]
    split <;> rfl

/-! ## (5) Flattening -/

namespace Image

/-- The background that parameters ask for. -/
def backgroundOf (ps : Params) : Colour := Colour.ofValue .white (ps.get? "b")

variable {source : Buffer} {d : Buffer.Decoded}

/-- **What is flattened** is the picture over the background that is asked for. -/
theorem apply_flatten (hd : source.decode "b_auto" = .ok d) (ps : Params) :
    flatten.apply source ps
      = Buffer.encode "b_auto" (d.picture.flatten (backgroundOf ps)) d.format :=
  apply_of_transform rfl hd rfl

/-- **Flattening again changes nothing**, in formats that keep colours of 8 bits. -/
theorem exists_apply_flatten (hd : source.decode "b_auto" = .ok d) (hkeeps : d.format.KeepsRgb8)
    (ps : Params) :
    ∃ out f, flatten.apply source ps = .ok out ∧
      (∀ op, out.decode op = .ok ⟨d.picture.flatten (backgroundOf ps), f⟩) ∧
      ∀ ps', flatten.apply out ps' = .ok out := by
  obtain ⟨out, f, hencode, hdecode⟩ := hkeeps (d.picture.flatten (backgroundOf ps)) rfl "b_auto"
  refine ⟨out, f, (apply_flatten hd ps).trans hencode, hdecode, fun ps' => ?_⟩
  rw [apply_flatten (hdecode _), Picture.flatten_flatten]
  exact Buffer.encode_again (ImageFormat.keepsRgb8_iff.1 hkeeps).1 hencode (hdecode "")

/-- **Flattening is a blend rounded to nearest, and absorbs later flattening.** In 32 bits nothing
wraps around. A picture of any size is put over any background pixel by pixel: every colour is the
integer nearest to the exact blend, between the colour and the background, equal to one of them where
alpha is full or zero, and has 8 bits. Colours grow with those of the picture and of the background,
whose alpha does not count. Background flattening does that to the picture of any contents. In a
format that keeps colours of 8 bits it goes well, and whatever background is asked for next, another
flattening leaves the file as it is; so do runs with time. -/
theorem flatten_rounds_and_absorbs :
    (∀ front back alpha : UInt8, (Pixel.blend32 front back alpha).toNat
      = Pixel.blend front.toNat back.toNat alpha.toNat) ∧
    (∀ p : Picture, p.InRange → ∀ background, p.IsFlattened background (p.flatten background)) ∧
    (∀ p q : Picture, p.IsBelow q → ∀ background background' : Colour,
      (Pixel.ofColour background).IsBelow (Pixel.ofColour background') → ∀ x y c c',
      (p.flatten background).grid.at? x y = some c →
      (q.flatten background').grid.at? x y = some c' → c.IsBelow c') ∧
    (∀ (p : Picture) r g b a a', p.flatten ⟨r, g, b, a⟩ = p.flatten ⟨r, g, b, a'⟩) ∧
    (∀ (source : Buffer) d, source.decode "b_auto" = .ok d → ∀ ps,
      flatten.apply source ps
        = Buffer.encode "b_auto" (d.picture.flatten (backgroundOf ps)) d.format ∧
      (d.format.KeepsRgb8 → ∃ out f, flatten.apply source ps = .ok out ∧
        (∀ op, out.decode op = .ok ⟨d.picture.flatten (backgroundOf ps), f⟩) ∧
        ∀ ps', flatten.apply out ps' = .ok out)) ∧
    ∀ config : Config.Pipeline, config.imageTimeoutSecs ≠ 0 → ∀ s s' found found',
      (registry config).resolve s = some found → found.tag = "b_auto" →
      (registry config).resolve s' = some found' → found'.tag = "b_auto" →
      ∀ (source : Buffer) d, source.decode "b_auto" = .ok d → d.format.KeepsRgb8 →
        ∃ out, run config source [s] = .ok out ∧ run config source [s, s'] = .ok out := by
  refine ⟨Pixel.toNat_blend32, fun p h background => p.isFlattened_flatten h background,
    fun p q h background background' hback x y c c' => h.flatten hback,
    fun p r g b a a' => rfl, fun source d hd ps => ⟨apply_flatten hd ps, fun hkeeps =>
      exists_apply_flatten hd hkeeps ps⟩, ?_⟩
  intro config htime s s' found found' hfound htag hfound' htag' source d hd hkeeps
  have hop (tag : String) (htag : tag = "b_auto") : (tag, flatten) ∈ operations config := by
    rw [htag]
    simp [operations]
  obtain ⟨out, f, hout, -, hagain⟩ := exists_apply_flatten hd hkeeps found.params
  have hdone (b : Buffer) : run config b [] = .ok b := rfl
  exact ⟨out, (run_cons_eq_ok_iff htime hfound (hop _ htag)).2 ⟨out, hout, hdone out⟩,
    (run_cons_eq_ok_iff htime hfound (hop _ htag)).2 ⟨out, hout,
      (run_cons_eq_ok_iff htime hfound' (hop _ htag')).2 ⟨out, hagain _, hdone out⟩⟩⟩

/-- Two pixels of glass. -/
def glass : Picture := ⟨.rgba8, Grid.ofFn 2 1 fun x _ => ⟨255, x, 0, 128⟩⟩

/-- Over black, half of the red is left, and no colour is lighter than over white; what is over black
stays so. -/
theorem flatten_rounds_and_absorbs_glass :
    Pixel.IsOver ⟨255, 0, 0, 128⟩ .black ⟨128, 0, 0, 255⟩ ∧
    Pixel.IsBelow ⟨128, 0, 0, 255⟩ ⟨255, 127, 127, 255⟩ ∧
    (∃ out, flatten.apply (Buffer.encodePng glass) (.ofList [("b", .text "black")]) = .ok out ∧
      flatten.apply out .empty = .ok out) ∧
    ∃ out, run {} (Buffer.encodePng glass) [⟨"b_auto", .ofList [("b", .text "black")]⟩] = .ok out ∧
      run {} (Buffer.encodePng glass)
        [⟨"b_auto", .ofList [("b", .text "black")]⟩, ⟨"b_auto", .empty⟩] = .ok out := by
  obtain ⟨-, hflattened, hgrows, -, hcontents, hruns⟩ := flatten_rounds_and_absorbs
  have hdecode : (Buffer.encodePng glass).decode "b_auto" = .ok ⟨glass, .png⟩ := rfl
  have hkeeps : ImageFormat.KeepsRgb8 .png := ImageFormat.keepsRgb8_iff.2 (by decide)
  have hrange : glass.InRange := by
    intro x y c hc
    rw [glass, Grid.at?_ofFn] at hc
    split at hc
    · rename_i hinside
      cases hc
      have hx : x ≤ glass.colour.limit := (Nat.le_of_lt hinside.1).trans (by decide)
      exact ⟨le_rfl, hx, Nat.zero_le _, show 128 ≤ 255 by decide⟩
    · cases hc
  have hbelow : glass.IsBelow glass := by
    intro x y c c' hc hc'
    cases hc.symm.trans hc'
    exact ⟨⟨le_rfl, le_rfl, le_rfl⟩, rfl⟩
  have hblack : (glass.flatten .black).grid.at? 0 0 = some ⟨128, 0, 0, 255⟩ := by decide +kernel
  have hwhite : (glass.flatten .white).grid.at? 0 0 = some ⟨255, 127, 127, 255⟩ := by
    decide +kernel
  obtain ⟨out, hout, hover⟩ := (hflattened glass hrange .black).pixels 0 0 ⟨255, 0, 0, 128⟩ rfl
  cases hout.symm.trans hblack
  obtain ⟨file, f, hfile, -, hagain⟩ :=
    (hcontents _ _ hdecode (.ofList [("b", .text "black")])).2 hkeeps
  exact ⟨hover,
    hgrows _ _ hbelow _ _ ⟨by decide, by decide, by decide⟩ 0 0 _ _ hblack hwhite,
    ⟨file, hfile, hagain _⟩,
    hruns {} (by decide) _ _ ⟨"b_auto", attempt false flatten, .ofList [("b", .text "black")]⟩
      ⟨"b_auto", attempt false flatten, .empty⟩ rfl rfl rfl rfl _ _ hdecode hkeeps⟩

end Image

end MediaTransform
