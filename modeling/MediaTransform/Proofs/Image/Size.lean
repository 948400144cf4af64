import MediaTransform.Image.Operation
import MediaTransform.Proofs.Geometry
import MediaTransform.Proofs.Registry

/-! # Sizes of pictures through operations

What becomes of the sides of a picture, whatever becomes of its pixels:

* **`Picture.width_cover`**, **`width_pad`**, **`width_flatten`** and the like — the sides that each
  change gives.
* **`Buffer.size?`** — the sides of contents; decoding finds them (`size?_of_decode`) and encoding
  keeps them (`size?_of_encode`).
* **`Buffer.Holds`** — contents that are a picture of so many pixels; **`Buffer.HoldsWithin`** says
  that these are within a limit.
* **`checkOutputSize_eq_ok_iff`** — what the limit lets through; `toNat_mul_toUInt64` says that 64
  bits hold the product that it looks at. -/

namespace MediaTransform

/-! ## (1) Pictures -/

namespace Picture

variable (p : Picture)

@[simp] theorem width_narrowed : p.narrowed.width = p.width := by
  unfold narrowed
  split <;> rfl

@[simp] theorem height_narrowed : p.narrowed.height = p.height := by
  unfold narrowed
  split <;> rfl

@[simp] theorem width_toRgba8 : p.toRgba8.width = p.width := p.width_narrowed

@[simp] theorem height_toRgba8 : p.toRgba8.height = p.height := p.height_narrowed

@[simp] theorem width_toRgb8 : p.toRgb8.width = p.width := p.width_narrowed

@[simp] theorem height_toRgb8 : p.toRgb8.height = p.height := p.height_narrowed

@[simp] theorem width_flatten (background : Colour) : (p.flatten background).width = p.width :=
  p.width_narrowed

@[simp] theorem height_flatten (background : Colour) : (p.flatten background).height = p.height :=
  p.height_narrowed

@[simp] theorem width_pad (w h : Nat) (background : Colour) : (p.pad w h background).width = w :=
  rfl

@[simp] theorem height_pad (w h : Nat) (background : Colour) : (p.pad w h background).height = h :=
  rfl

/-- **A cover is a window of the whole picture resized.** -/
theorem exists_cover_eq_crop (w h : Nat) :
    ∃ x y, p.cover w h = (p.coverWhole w h).crop x y w h := by
  unfold cover
  dsimp only
  split
  · exact ⟨0, _, rfl⟩
  · exact ⟨_, 0, rfl⟩

@[simp] theorem width_cover (w h : Nat) : (p.cover w h).width = w := by
  obtain ⟨x, y, hcover⟩ := p.exists_cover_eq_crop w h
  rw [hcover, width_crop]

@[simp] theorem height_cover (w h : Nat) : (p.cover w h).height = h := by
  obtain ⟨x, y, hcover⟩ := p.exists_cover_eq_crop w h
  rw [hcover, height_crop]

/-- **A picture inside a box has the size that the box asks for**; it stays as it is in a box of its
own size, which asks for that size, too. -/
theorem fitSize_eq {w h : Nat} (hw : IsSide w) (hh : IsSide h) :
    p.fitSize w h = fitDimensions p.width p.height w h := by
  unfold fitSize
  split
  · rename_i hsame
    obtain ⟨rfl, rfl⟩ := hsame
    exact (fitDimensions_self hw hh).symm
  · rfl

/-- **What is fitted has the size that its box asks for.** -/
theorem width_fitInside {w h : Nat} (hw : IsSide w) (hh : IsSide h) :
    (p.fitInside w h).width = (fitDimensions p.width p.height w h).1 := by
  rw [fitInside, width_resizeExact, p.fitSize_eq hw hh]

theorem height_fitInside {w h : Nat} (hw : IsSide w) (hh : IsSide h) :
    (p.fitInside w h).height = (fitDimensions p.width p.height w h).2 := by
  rw [fitInside, height_resizeExact, p.fitSize_eq hw hh]

@[simp] theorem width_restored_gif : (Gif.restored p).width = p.width := rfl

@[simp] theorem height_restored_gif : (Gif.restored p).height = p.height := rfl

@[simp] theorem width_restored_jpeg (quality : Nat) :
    (Jpeg.restored p quality).width = p.width := by
  unfold Jpeg.restored
  dsimp only
  split <;> rfl

@[simp] theorem height_restored_jpeg (quality : Nat) :
    (Jpeg.restored p quality).height = p.height := by
  unfold Jpeg.restored
  dsimp only
  split <;> rfl

@[simp] theorem width_inColour (alpha : Bool) : (Encoded.inColour alpha p).width = p.width := by
  unfold Encoded.inColour
  split
  · rfl
  · split
    · exact p.width_toRgba8
    · exact p.width_toRgb8

@[simp] theorem height_inColour (alpha : Bool) : (Encoded.inColour alpha p).height = p.height := by
  unfold Encoded.inColour
  split
  · rfl
  · split
    · exact p.height_toRgba8
    · exact p.height_toRgb8

end Picture

/-- A mask is put on a picture of its own size. -/
theorem Mask.area_apply (mask : Mask) (p : Picture) :
    Picture.area ⟨.rgba8, mask.apply p.toRgba8.grid⟩ = p.area := by
  show p.toRgba8.width * p.toRgba8.height = p.area
  rw [Picture.width_toRgba8, Picture.height_toRgba8, Picture.area]

/-! ## (2) Contents -/

/-- **An encoded picture is decoded with its sides.** -/
theorem Encoded.sides_of_picture? {e : Encoded} {p : Picture} (h : e.picture? = some p) :
    p.width = e.picture.width ∧ p.height = e.picture.height := by
  unfold picture? at h
  split at h
  · split at h
    · cases h
      exact ⟨rfl, rfl⟩
    · cases h
  all_goals
    cases h
    simp

namespace Buffer

/-- The format and the sides of contents, if they are a picture. -/
def outline? (b : Buffer) : Option (ImageFormat × Nat × Nat) :=
  b.encoded?.map fun e => (e.format, e.picture.width, e.picture.height)

/-- The sides of contents, if they are a picture. -/
def size? (b : Buffer) : Option (Nat × Nat) := b.outline?.map (·.2)

/-- **The contents are a picture** of so many pixels. -/
def Holds (b : Buffer) (n : Nat) : Prop := ∃ e, b.encoded? = some e ∧ e.picture.area = n

variable {b out : Buffer} {op : String} {p : Picture} {d : Decoded} {format : ImageFormat} {n : Nat}

/-- **What is decoded has the format and the sides of the contents.** -/
theorem outline?_of_decode (h : b.decode op = .ok d) :
    b.outline? = some (d.format, d.picture.width, d.picture.height) := by
  cases b with
  | bytes raw =>
    unfold decode at h
    dsimp only at h
    split at h
    · cases h
    · split at h
      · rename_i e he
        cases h
        rw [outline?, encoded?, he]
        rfl
      · cases h
  | encoded e =>
    unfold decode at h
    dsimp only at h
    split at h
    · rename_i p hp
      cases h
      obtain ⟨hwidth, hheight⟩ := Encoded.sides_of_picture? hp
      rw [hwidth, hheight]
      rfl
    · cases h

/-- What can be decoded for one operation can be for any other one. -/
theorem decode_of_decode {d : Decoded} (h : b.decode op = .ok d) (op' : String) :
    b.decode op' = .ok d := by
  cases b with
  | bytes raw =>
    unfold decode at h ⊢
    dsimp only at h ⊢
    split at h
    · cases h
    · split at h
      · exact h
      · cases h
  | encoded e =>
    unfold decode at h ⊢
    dsimp only at h ⊢
    split at h
    · exact h
    · cases h

theorem size?_of_decode (h : b.decode op = .ok d) :
    b.size? = some (d.picture.width, d.picture.height) := by
  rw [size?, outline?_of_decode h]
  rfl

theorem size?_encodePng (p : Picture) : (encodePng p).size? = some (p.width, p.height) := rfl

theorem size?_of_encodeJpeg {quality : Nat} (h : encodeJpeg op p quality = .ok out) :
    out.size? = some (p.width, p.height) := by
  unfold encodeJpeg at h
  split at h
  · cases h
    rw [size?, outline?, encoded?, Option.map_some, Option.map_some, Picture.width_toRgb8,
      Picture.height_toRgb8]
  · cases h

/-- **Encoding keeps the sides**, in whatever format it ends up. -/
theorem size?_of_encode (h : encode op p format = .ok out) :
    out.size? = some (p.width, p.height) := by
  unfold encode at h
  split at h
  · exact size?_of_encodeJpeg h
  · split at h
    · cases h
      rfl
    · cases h
      exact size?_encodePng p

/-- Contents hold the product of their sides. -/
theorem holds_of_size? {size : Nat × Nat} (h : b.size? = some size) :
    b.Holds (size.1 * size.2) := by
  obtain ⟨o, ho, rfl⟩ := Option.map_eq_some_iff.1 h
  obtain ⟨e, he, rfl⟩ := Option.map_eq_some_iff.1 ho
  exact ⟨e, he, rfl⟩

/-- **What is decoded has the pixels that the contents hold.** -/
theorem holds_of_decode (h : b.decode op = .ok d) : b.Holds d.picture.area :=
  holds_of_size? (size?_of_decode h)

theorem Holds.eq_area (h : b.Holds n) (hd : b.decode op = .ok d) : n = d.picture.area := by
  obtain ⟨e, he, rfl⟩ := h
  obtain ⟨e', he', harea⟩ := holds_of_decode hd
  rw [he] at he'
  cases he'
  exact harea

/-- **The contents are a picture within a limit**, and whoever decodes them finds one. -/
structure HoldsWithin (b : Buffer) (limit : Nat) : Prop where
  encoded : ∃ e, b.encoded? = some e ∧ e.picture.width * e.picture.height ≤ limit
  decoded : ∀ op d, b.decode op = .ok d → d.picture.width * d.picture.height ≤ limit

theorem Holds.within {limit : Nat} (h : b.Holds n) (hn : n ≤ limit) : b.HoldsWithin limit where
  encoded := by
    obtain ⟨e, he, rfl⟩ := h
    exact ⟨e, he, hn⟩
  decoded op d hd := by
    rw [h.eq_area hd] at hn
    exact hn

theorem holds_encodePng (p : Picture) : (encodePng p).Holds p.area :=
  holds_of_size? (size?_encodePng p)

theorem holds_of_encodeJpeg {quality : Nat} (h : encodeJpeg op p quality = .ok out) :
    out.Holds p.area :=
  holds_of_size? (size?_of_encodeJpeg h)

theorem holds_of_encode (h : encode op p format = .ok out) : out.Holds p.area :=
  holds_of_size? (size?_of_encode h)

end Buffer

/-! ## (3) The limit -/

namespace Image

/-- **The limit lets through what has no more pixels.** -/
theorem checkOutputSize_eq_ok_iff {op : String} {w h limit : Nat} :
    checkOutputSize op w h limit = .ok () ↔ w * h ≤ limit := by
  unfold checkOutputSize
  split
  · rename_i hover
    exact ⟨nofun, fun hle => absurd hover (Nat.not_lt.2 hle)⟩
  · rename_i hwithin
    exact ⟨fun _ => Nat.not_lt.1 hwithin, fun _ => rfl⟩

/-- **What is fitted within a limit** is the picture in its box, where its size is within it. -/
theorem fitWithin_eq_ok_iff {op : String} {limit w h : Nat} {p q : Picture} :
    fitWithin op limit w h p = .ok q ↔
      (fitDimensions p.width p.height w h).1 * (fitDimensions p.width p.height w h).2 ≤ limit ∧
        p.fitInside w h = q := by
  constructor
  · intro hq
    obtain ⟨⟨⟩, hcheck, hq⟩ := bind_eq_ok_iff.1 hq
    exact ⟨checkOutputSize_eq_ok_iff.1 hcheck, Except.ok.inj hq⟩
  · rintro ⟨hle, rfl⟩
    exact bind_eq_ok_iff.2 ⟨(), checkOutputSize_eq_ok_iff.2 hle, rfl⟩

/-- **The product of two sides of 32 bits fits into 64 bits.** -/
theorem toNat_mul_toUInt64 (w h : UInt32) :
    (w.toUInt64 * h.toUInt64).toNat = w.toNat * h.toNat := by
  have hlt : w.toNat * h.toNat < 2 ^ 32 * 2 ^ 32 := Nat.mul_lt_mul'' w.toNat_lt h.toNat_lt
  rw [UInt64.toNat_mul, UInt32.toNat_toUInt64, UInt32.toNat_toUInt64]
  exact Nat.mod_eq_of_lt (hlt.trans_eq (by norm_num))

end Image

end MediaTransform
