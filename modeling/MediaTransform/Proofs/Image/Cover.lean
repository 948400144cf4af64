import MediaTransform.Proofs.Image.Budget

/-! # What covers make on the way

A cover is cut out of the whole picture, which is resized first. The limit is about what is cut out:

* **`Picture.coverSizes`** — the sizes of all grids that a cover makes, the last one that of its
  result; **`Picture.CoversWithin`** says that all of them keep to a budget.
* **`Picture.coversWithin_iff`** — they do exactly where the whole picture does, resized.
* **`Image.coverBox`** — the box that a request asks for; `task_of_coverBox` says what is made of
  it.
* **`Image.cover_within_iff`** — which requests that pass the limit keep to the budget;
  `not_within_stripe` is one that does not. -/

namespace MediaTransform

namespace Picture

/-! ## (1) The grids of a cover -/

/-- **The sizes of the grids that a cover makes**: the picture, the picture with its columns
resampled, the whole picture resized, and the window that is cut out of it. -/
def coverSizes (p : Picture) (w h : Nat) : List (Nat × Nat) :=
  let whole := p.coverWhole w h
  let tall := Resample.tall p.grid whole.height
  [(p.width, p.height), (tall.width, tall.height), (whole.width, whole.height),
    ((p.cover w h).width, (p.cover w h).height)]

/-- **A cover keeps to a budget**: none of its grids has more pixels. -/
def CoversWithin (p : Picture) (w h budget : Nat) : Prop :=
  ∀ size ∈ p.coverSizes w h, size.1 * size.2 ≤ budget

variable {p : Picture} {w h budget : Nat}

theorem width_coverWhole (p : Picture) (w h : Nat) :
    (p.coverWhole w h).width = (coverDimensions p.width p.height w h).1 :=
  width_resizeExact _ _ _

theorem height_coverWhole (p : Picture) (w h : Nat) :
    (p.coverWhole w h).height = (coverDimensions p.width p.height w h).2 :=
  height_resizeExact _ _ _

/-- **The whole picture decides.** Where a picture and its box are within a budget, the cover keeps
to it exactly if the whole picture does, resized. The picture with its columns resampled is never
the largest, as no cover makes one side smaller and enlarges the other one. -/
theorem coversWithin_iff (hwidth : IsSide p.width) (hheight : IsSide p.height) (hw : IsSide w)
    (hh : IsSide h) (hpicture : p.width * p.height ≤ budget) (hbox : w * h ≤ budget) :
    p.CoversWithin w h budget ↔
      (coverDimensions p.width p.height w h).1 * (coverDimensions p.width p.height w h).2
        ≤ budget := by
  have htall (g : Grid Pixel) (n : Nat) :
      (Resample.tall g n).width = g.width ∧ (Resample.tall g n).height = n := ⟨rfl, rfl⟩
  simp only [CoversWithin, coverSizes, List.forall_mem_cons, List.not_mem_nil, false_imp_iff,
    implies_true, and_true, width_cover, height_cover, (htall _ _).1, (htall _ _).2,
    width_coverWhole, height_coverWhole]
  constructor
  · rintro ⟨-, -, hwhole, -⟩
    exact hwhole
  · intro hwhole
    refine ⟨hpicture, ?_, hwhole, hbox⟩
    -- columns of the whole picture's height: below the whole picture, or below the picture
    rcases coverDimensions_oneWay hwidth hheight hw hh with hwider | hlower
    · exact (Nat.mul_le_mul_right _ hwider).trans hwhole
    · exact (Nat.mul_le_mul_left _ hlower).trans hpicture

end Picture

namespace Image

/-! ## (2) Requests -/

/-- The tags whose operations cover a box. -/
def coverTags : List String := ["c_fill", "c_thumb", "g_auto", "ar"]

/-- **The box that a request to cover asks for**: two sides, or an aspect ratio and maybe a side. -/
def coverBox (tag : String) (ps : Params) : Except Error (Option (Nat × Nat)) :=
  if tag = "ar" then do
    let ratio ← Video.requireRatio ps
    let w ← ps.dimension "ar" "w"
    let h ← ps.dimension "ar" "h"
    return aspectDimensions w h ratio
  else do
    let w ← ps.requireDimension tag "w"
    let h ← ps.requireDimension tag "h"
    return some (w, h)

variable {config : Config.Pipeline} {tag : String} {op : Operation} {ps : Params} {w h limit : Nat}

/-- The sides of a box are in range. -/
theorem isSide_of_coverBox (hbox : coverBox tag ps = .ok (some (w, h))) : IsSide w ∧ IsSide h := by
  unfold coverBox at hbox
  split at hbox
  · obtain ⟨ratio, -, hbox⟩ := bind_eq_ok_iff.1 hbox
    obtain ⟨w', hw, hbox⟩ := bind_eq_ok_iff.1 hbox
    obtain ⟨h', hh, hbox⟩ := bind_eq_ok_iff.1 hbox
    refine isSide_of_aspectDimensions ?_ ?_ (Except.ok.inj hbox)
    · rintro n rfl
      exact Params.isSide_of_dimension hw
    · rintro n rfl
      exact Params.isSide_of_dimension hh
  · obtain ⟨w', hw, hbox⟩ := bind_eq_ok_iff.1 hbox
    obtain ⟨h', hh, hbox⟩ := bind_eq_ok_iff.1 hbox
    cases hbox
    exact ⟨Params.isSide_of_requireDimension hw, Params.isSide_of_requireDimension hh⟩

/-- The task of a cover. -/
def coverTask (tag : String) (w h : Nat) : Task := transform tag fun p => .ok (p.cover w h)

theorem fill_of_coverBox (htag : tag ≠ "ar") (hbox : coverBox tag ps = .ok (some (w, h)))
    (hcheck : checkOutputSize tag w h limit = .ok ()) :
    fill tag limit ps = .ok (coverTask tag w h) := by
  rw [coverBox, if_neg htag] at hbox
  obtain ⟨w', hw, hbox⟩ := bind_eq_ok_iff.1 hbox
  obtain ⟨h', hh, hbox⟩ := bind_eq_ok_iff.1 hbox
  cases hbox
  exact bind_eq_ok_iff.2 ⟨w, hw, bind_eq_ok_iff.2 ⟨h, hh, bind_eq_ok_iff.2 ⟨(), hcheck, rfl⟩⟩⟩

theorem reshape_of_coverBox (hbox : coverBox "ar" ps = .ok (some (w, h)))
    (hcheck : checkOutputSize "ar" w h limit = .ok ()) :
    reshape limit ps = .ok (coverTask "ar" w h) := by
  rw [coverBox, if_pos rfl] at hbox
  obtain ⟨ratio, hratio, hbox⟩ := bind_eq_ok_iff.1 hbox
  obtain ⟨w', hw, hbox⟩ := bind_eq_ok_iff.1 hbox
  obtain ⟨h', hh, hbox⟩ := bind_eq_ok_iff.1 hbox
  have hsides : aspectDimensions w' h' ratio = some (w, h) := Except.ok.inj hbox
  refine bind_eq_ok_iff.2 ⟨ratio, hratio, bind_eq_ok_iff.2 ⟨w', hw, bind_eq_ok_iff.2 ⟨h', hh, ?_⟩⟩⟩
  rw [hsides]
  exact bind_eq_ok_iff.2 ⟨(), hcheck, rfl⟩

/-- **A request to cover that passes the limit is a cover of its box.** -/
theorem task_of_coverBox (hop : (tag, op) ∈ operations config) (htag : tag ∈ coverTags)
    (hbox : coverBox tag ps = .ok (some (w, h)))
    (hcheck : checkOutputSize tag w h config.maxOutputPixels = .ok ()) :
    op ps = .ok (coverTask tag w h) := by
  have hall : ∀ p ∈ operations config, p.1 ∈ coverTags →
      p.1 ≠ "ar" ∧ p.2 = fill p.1 config.maxOutputPixels ∨
        p.1 = "ar" ∧ p.2 = reshape config.maxOutputPixels := by
    simp [operations, coverTags, removalTag]
  have hcases := hall (tag, op) hop htag
  dsimp only at hcases
  rcases hcases with ⟨hother, rfl⟩ | ⟨rfl, rfl⟩
  · exact fill_of_coverBox hother hbox hcheck
  · exact reshape_of_coverBox hbox hcheck

/-! ## (3) The budget of a cover -/

/-- **Which covers keep to the budget.** A request that passes the limit makes a cover of its box.
All grids that it makes have no more pixels than the source or than the limit exactly where the
whole source, resized, has no more: so it is wherever no side is enlarged. In any case the whole
source, resized, has one side of the box and reaches over the other one, which the limit does not
look at. -/
theorem cover_within_iff (hop : (tag, op) ∈ operations config) (htag : tag ∈ coverTags)
    (hbox : coverBox tag ps = .ok (some (w, h)))
    (hcheck : checkOutputSize tag w h config.maxOutputPixels = .ok ()) {source : Buffer}
    {d : Buffer.Decoded} (hd : source.decode tag = .ok d) (hwidth : IsSide d.picture.width)
    (hheight : IsSide d.picture.height) :
    op.apply source ps = Buffer.encode tag (d.picture.cover w h) d.format ∧
    (d.picture.CoversWithin w h
        (max (d.picture.width * d.picture.height) config.maxOutputPixels) ↔
      (coverDimensions d.picture.width d.picture.height w h).1 *
          (coverDimensions d.picture.width d.picture.height w h).2
        ≤ max (d.picture.width * d.picture.height) config.maxOutputPixels) ∧
    (w ≤ d.picture.width → h ≤ d.picture.height →
      d.picture.CoversWithin w h
        (max (d.picture.width * d.picture.height) config.maxOutputPixels)) ∧
    ((coverDimensions d.picture.width d.picture.height w h).1 = w ∧
        h ≤ (coverDimensions d.picture.width d.picture.height w h).2 ∨
      w ≤ (coverDimensions d.picture.width d.picture.height w h).1 ∧
        (coverDimensions d.picture.width d.picture.height w h).2 = h) := by
  obtain ⟨hw, hh⟩ := isSide_of_coverBox hbox
  have hwithin := Picture.coversWithin_iff hwidth hheight hw hh (le_max_left _ _)
    (le_max_of_le_right (checkOutputSize_eq_ok_iff.1 hcheck))
  refine ⟨?_, hwithin, fun hsmallw hsmallh => hwithin.2 ?_,
    coverDimensions_cases hwidth hheight hw hh⟩
  · exact apply_of_transform (task_of_coverBox hop htag hbox hcheck) hd rfl
  · obtain ⟨hlew, hleh⟩ := coverDimensions_le hwidth hheight hw hh hsmallw hsmallh
    exact le_max_of_le_left (Nat.mul_le_mul hlew hleh)

/-- A window of 20 pixels, asked for by its ratio, keeps to the budget. -/
theorem cover_within_iff_sample :
    coverBox "ar" (.ofList [("ar", .number (.ofNat 20)), ("h", .number (.ofNat 1))])
        = .ok (some (20, 1)) ∧
    checkOutputSize "ar" 20 1 tightConfig.maxOutputPixels = .ok () ∧
    stripe.CoversWithin 20 1 (max (40 * 1) 400) := by
  have hbox : coverBox "ar" (.ofList [("ar", .number (.ofNat 20)), ("h", .number (.ofNat 1))])
      = .ok (some (20, 1)) := by
    decide +kernel
  have hop : ("ar", reshape 400) ∈ operations tightConfig := by
    simp [operations, tightConfig]
  have hdecode : (Buffer.encodePng stripe).decode "ar" = .ok ⟨stripe, .png⟩ := rfl
  obtain ⟨-, -, hsmall, -⟩ := cover_within_iff hop (by decide) hbox rfl hdecode
    ⟨by decide, by decide⟩ ⟨by decide, by decide⟩
  exact ⟨hbox, rfl, hsmall (by decide) (by decide)⟩

/-- **The limit does not bound the work of a cover.** A request for 20 by 20 pixels of a row of 40
passes a limit of 400 pixels and goes well, but on the way the row becomes 800 by 20 pixels. -/
theorem not_within_stripe :
    coverBox "c_fill" coverSpec.params = .ok (some (20, 20)) ∧
    checkOutputSize "c_fill" 20 20 tightConfig.maxOutputPixels = .ok () ∧
    run tightConfig (Buffer.encodePng stripe) [coverSpec]
      = .ok (Buffer.encodePng (stripe.cover 20 20)) ∧
    stripe.coverSizes 20 20 = [(40, 1), (40, 20), (800, 20), (20, 20)] ∧
    ¬stripe.CoversWithin 20 20
      (max (stripe.width * stripe.height) tightConfig.maxOutputPixels) := by
  have hsizes : stripe.coverSizes 20 20 = [(40, 1), (40, 20), (800, 20), (20, 20)] := by
    decide +kernel
  refine ⟨by decide +kernel, rfl, rfl, hsizes, fun hwithin => ?_⟩
  have hwhole := hwithin (800, 20) (by simp [hsizes])
  exact absurd hwhole (by decide)

end Image

end MediaTransform
