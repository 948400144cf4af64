import MediaTransform.Proofs.Image.Geometry

/-! # Fitted pictures touch their box

A picture that is fitted inside a box keeps to it and has one of its sides:

* **`Image.apply_scale_eq_ok_iff`** — what scaling reads and does.
* **`Image.fitDimensions_fst_eq`**, **`fitDimensions_snd_eq`** — a missing side counts as the largest
  one, which no output within a smaller limit can have.
* **`Image.fit_touches_box`** — all fits, what is padded, and scaling to one side. -/

namespace MediaTransform

namespace Image

/-! ## (1) Scaling -/

variable {config : Config.Pipeline} {limit : Nat} {ps : Params} {source output : Buffer}
  {width height w h : Nat}

/-- **What scaling does**: it fits a picture to the sides that are given, at least one, within the
limit. -/
theorem apply_scale_eq_ok_iff :
    (scale limit).apply source ps = .ok output ↔
      ∃ w h d, ps.dimension "c_scale" "w" = .ok w ∧ ps.dimension "c_scale" "h" = .ok h ∧
        (w.isSome = true ∨ h.isSome = true) ∧ source.decode "c_scale" = .ok d ∧
        (fitDimensions d.picture.width d.picture.height (w.getD maxSide) (h.getD maxSide)).1 *
          (fitDimensions d.picture.width d.picture.height (w.getD maxSide) (h.getD maxSide)).2
            ≤ limit ∧
        Buffer.encode "c_scale" (d.picture.fitInside (w.getD maxSide) (h.getD maxSide)) d.format
          = .ok output := by
  constructor
  · intro hnext
    obtain ⟨t, ht, hnext⟩ := bind_eq_ok_iff.1 hnext
    obtain ⟨w, hw, ht⟩ := bind_eq_ok_iff.1 ht
    obtain ⟨h, hh, ht⟩ := bind_eq_ok_iff.1 ht
    dsimp only at ht
    split at ht
    · cases ht
    · rename_i hgiven
      cases ht
      obtain ⟨d, p, hd, hp, hencode⟩ := Task.apply_transform_eq_ok_iff.1 hnext
      obtain ⟨hle, rfl⟩ := fitWithin_eq_ok_iff.1 hp
      refine ⟨w, h, d, hw, hh, ?_, hd, hle, hencode⟩
      by_contra hnone
      obtain ⟨hnow, hnoh⟩ := not_or.1 hnone
      rw [Option.not_isSome_iff_eq_none] at hnow hnoh
      subst hnow hnoh
      exact hgiven rfl
  · rintro ⟨w, h, d, hw, hh, hgiven, hd, hle, hencode⟩
    have hsome : ¬(w.isNone && h.isNone) = true := by
      rcases hgiven with hgiven | hgiven
      · simp [Option.isNone_eq_false_iff.2 hgiven]
      · simp [Option.isNone_eq_false_iff.2 hgiven]
    refine bind_eq_ok_iff.2 ⟨_, bind_eq_ok_iff.2 ⟨w, hw, bind_eq_ok_iff.2 ⟨h, hh, if_neg hsome⟩⟩,
      Task.apply_transform_eq_ok_iff.2 ⟨d, _, hd, fitWithin_eq_ok_iff.2 ⟨hle, rfl⟩, hencode⟩⟩

/-- **A limit keeps a fit away from the largest side**: a fit within it, which has a pixel at least
across, touches its box on the other side. -/
theorem fitDimensions_fst_eq (hlimit : limit < maxSide) (hwidth : width ≤ maxSide)
    (hheight : height ≤ maxSide) (hpixel : 0 < width ∨ 0 < height) (hw : IsSide w)
    (hle : (fitDimensions width height w maxSide).1 * (fitDimensions width height w maxSide).2
      ≤ limit) :
    (fitDimensions width height w maxSide).1 = w := by
  obtain ⟨⟨hone, -⟩, -, htouches⟩ :=
    fitDimensions_inside hwidth hheight hw (h := maxSide) ⟨by decide, le_rfl⟩
  refine (htouches hpixel).resolve_right fun hlargest => ?_
  -- one column of the largest height is beyond the limit already
  have hproduct := Nat.mul_le_mul_right maxSide hone
  rw [hlargest] at hle
  omega

theorem fitDimensions_snd_eq (hlimit : limit < maxSide) (hwidth : width ≤ maxSide)
    (hheight : height ≤ maxSide) (hpixel : 0 < width ∨ 0 < height) (hh : IsSide h)
    (hle : (fitDimensions width height maxSide h).1 * (fitDimensions width height maxSide h).2
      ≤ limit) :
    (fitDimensions width height maxSide h).2 = h := by
  obtain ⟨-, ⟨hone, -⟩, htouches⟩ :=
    fitDimensions_inside hwidth hheight (w := maxSide) ⟨by decide, le_rfl⟩ hh
  refine (htouches hpixel).resolve_left fun hlargest => ?_
  have hproduct := Nat.mul_le_mul_left maxSide hone
  rw [hlargest] at hle
  omega

/-! ## (2) Boxes -/

/-- **Scaling to one side leaves exactly this side**, where the limit is below the largest side. -/
theorem side_of_scale (hlimit : limit < maxSide)
    (hnext : (scale limit).apply source ps = .ok output)
    (hsize : source.size? = some (width, height)) (hwidth : width ≤ maxSide)
    (hheight : height ≤ maxSide) (hpixel : 0 < width ∨ 0 < height) :
    (ps.contains "h" = false →
      ∃ w b, roundedSide? ps "w" = some w ∧ output.size? = some (w, b)) ∧
    (ps.contains "w" = false →
      ∃ a h, roundedSide? ps "h" = some h ∧ output.size? = some (a, h)) := by
  obtain ⟨w, h, d, hw, hh, hgiven, hd, hle, hencode⟩ := apply_scale_eq_ok_iff.1 hnext
  have hboxw := Params.isSide_getD_dimension hw
  have hboxh := Params.isSide_getD_dimension hh
  have houtput := Buffer.size?_of_encode hencode
  obtain ⟨hdwidth, hdheight⟩ :=
    Prod.mk.inj (Option.some.inj ((Buffer.size?_of_decode hd).symm.trans hsize))
  rw [d.picture.width_fitInside hboxw hboxh, d.picture.height_fitInside hboxw hboxh] at houtput
  rw [hdwidth, hdheight] at houtput hle
  have hwsome := Params.isSome_of_dimension hw
  have hhsome := Params.isSome_of_dimension hh
  constructor
  · intro hmissing
    rw [hmissing] at hhsome
    obtain ⟨w, rfl⟩ := Option.isSome_iff_exists.1
      (hgiven.resolve_right (Bool.eq_false_iff.1 hhsome))
    obtain rfl := Option.not_isSome_iff_eq_none.1 (Bool.eq_false_iff.1 hhsome)
    have hexact : (fitDimensions width height w maxSide).1 = w :=
      fitDimensions_fst_eq hlimit hwidth hheight hpixel (Params.isSide_of_dimension hw) hle
    refine ⟨w, (fitDimensions width height w maxSide).2, roundedSide?_of_dimension hw, ?_⟩
    rw [houtput]
    exact congrArg some (Prod.ext hexact rfl)
  · intro hmissing
    rw [hmissing] at hwsome
    obtain ⟨h, rfl⟩ := Option.isSome_iff_exists.1
      (hgiven.resolve_left (Bool.eq_false_iff.1 hwsome))
    obtain rfl := Option.not_isSome_iff_eq_none.1 (Bool.eq_false_iff.1 hwsome)
    have hexact : (fitDimensions width height maxSide h).2 = h :=
      fitDimensions_snd_eq hlimit hwidth hheight hpixel (Params.isSide_of_dimension hh) hle
    refine ⟨(fitDimensions width height maxSide h).1, h, roundedSide?_of_dimension hh, ?_⟩
    rw [houtput]
    exact congrArg some (Prod.ext rfl hexact)

/-- **A fit stays in its box and touches it.** For all sides of 32 bits the two sides of a fit are at
least one pixel and at most those of the box, and one of them is that of the box, unless the picture
has no columns and no rows. So what is padded has the sides that are read or smaller ones, and the
margins around it are exact differences. And where the limit is below the largest side, scaling to
one side leaves a picture of just this side. -/
theorem fit_touches_box (config : Config.Pipeline) :
    (∀ width height w h, width ≤ maxSide → height ≤ maxSide → IsSide w → IsSide h →
      (1 ≤ (fitDimensions width height w h).1 ∧ (fitDimensions width height w h).1 ≤ w) ∧
      (1 ≤ (fitDimensions width height w h).2 ∧ (fitDimensions width height w h).2 ≤ h) ∧
      (0 < width ∨ 0 < height →
        (fitDimensions width height w h).1 = w ∨ (fitDimensions width height w h).2 = h)) ∧
    (∀ (p : Picture) (ps : Params) w h, p.width ≤ maxSide → p.height ≤ maxSide →
      ps.requireDimension "c_pad" "w" = .ok w → ps.requireDimension "c_pad" "h" = .ok h →
        (p.fitInside w h).toRgba8.width ≤ w ∧ (p.fitInside w h).toRgba8.height ≤ h) ∧
    (config.maxOutputPixels < maxSide → ∀ source s found width height output,
      (registry config).resolve s = some found → found.tag = "c_scale" →
      source.size? = some (width, height) → width ≤ maxSide → height ≤ maxSide →
      0 < width ∨ 0 < height → run config source [s] = .ok output →
        (found.params.contains "h" = false →
          ∃ w b, roundedSide? found.params "w" = some w ∧ output.size? = some (w, b)) ∧
        (found.params.contains "w" = false →
          ∃ a h, roundedSide? found.params "h" = some h ∧ output.size? = some (a, h))) := by
  refine ⟨fun width height w h => fitDimensions_inside,
    fun p ps w h hwidth hheight hw hh => ?_,
    fun hlimit source s found width height output hfound htag hsize hwidth hheight hpixel hrun => ?_⟩
  · have hw := Params.isSide_of_requireDimension hw
    have hh := Params.isSide_of_requireDimension hh
    obtain ⟨⟨-, hlew⟩, ⟨-, hleh⟩, -⟩ := fitDimensions_inside hwidth hheight hw hh
    rw [Picture.width_toRgba8, Picture.height_toRgba8, p.width_fitInside hw hh,
      p.height_fitInside hw hh]
    exact ⟨hlew, hleh⟩
  · have hop : (found.tag, scale config.maxOutputPixels) ∈ operations config := by
      rw [htag]
      simp [operations]
    exact side_of_scale hlimit (apply_of_step hfound hop (step_of_run hfound hrun)) hsize hwidth
      hheight hpixel

/-- A spec that asks for a width of seven pixels. -/
def narrowSpec : Spec := ⟨"c_scale", .ofList [("w", .number (.ofNat 7))]⟩

/-- The row of 40 pixels becomes a row of seven, and is padded with room around it. -/
theorem fit_touches_box_stripe :
    (∃ output b, run tightConfig (Buffer.encodePng stripe) [narrowSpec] = .ok output ∧
      output.size? = some (7, b)) ∧
    ((stripe.fitInside 20 20).toRgba8.width ≤ 20 ∧ (stripe.fitInside 20 20).toRgba8.height ≤ 20) ∧
    ((fitDimensions 40 1 20 20).1 = 20 ∨ (fitDimensions 40 1 20 20).2 = 20) := by
  have hside : IsSide 20 := ⟨by decide, by decide⟩
  obtain ⟨hbox, hpad, hscale⟩ := fit_touches_box tightConfig
  obtain ⟨-, -, htouches⟩ := hbox 40 1 20 20 (by decide) (by decide) hside hside
  refine ⟨?_, hpad stripe coverSpec.params 20 20 (by decide) (by decide) (by decide +kernel)
    (by decide +kernel), htouches (.inl (by decide))⟩
  have hseven : narrowSpec.params.dimension "c_scale" "w" = .ok (some 7) := by decide +kernel
  have happly : (scale 400).apply (Buffer.encodePng stripe) narrowSpec.params
      = .ok (Buffer.encodePng (stripe.fitInside 7 maxSide)) :=
    apply_scale_eq_ok_iff.2 ⟨some 7, none, ⟨stripe, .png⟩, hseven, rfl, .inl rfl, rfl,
      by decide +kernel, rfl⟩
  have hfound : (registry tightConfig).resolve narrowSpec
      = some ⟨"c_scale", attempt false (scale 400), narrowSpec.params⟩ := rfl
  have hop : ("c_scale", scale 400) ∈ operations tightConfig := by
    simp [operations, tightConfig]
  have hrun : run tightConfig (Buffer.encodePng stripe) [narrowSpec]
      = .ok (Buffer.encodePng (stripe.fitInside 7 maxSide)) :=
    (run_cons_eq_ok_iff (by decide) hfound hop).2 ⟨_, happly, rfl⟩
  obtain ⟨hwidth, -⟩ := hscale (by decide) _ _ _ _ _ _ hfound rfl (Buffer.size?_encodePng stripe)
    (by decide) (by decide) (.inl (by decide)) hrun
  obtain ⟨w, b, hw, houtput⟩ := hwidth (by decide)
  cases (roundedSide?_of_dimension hseven).symm.trans hw
  exact ⟨_, b, hrun, houtput⟩

end Image

end MediaTransform
