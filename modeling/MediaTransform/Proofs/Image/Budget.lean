import MediaTransform.Proofs.Image.Tasks

/-! # The budget of pixels

No chain of image operations makes a picture that is larger than its source and than the limit:

* **`Image.Task.Within`**, **`Task.Shrinks`** — tasks whose output is within the limit, and tasks
  whose output is within their input.
* **`Image.IsLimited`** — the calls that check the limit; `IsTaskOf.within_or_shrinks` has one case
  for each kind of task.
* **`Image.run_within`** — the budget over whole chains. -/

namespace MediaTransform

namespace Image

/-! ## (1) Tasks -/

namespace Task

/-- **The output of a task is within a limit**, whatever comes in. -/
def Within (limit : Nat) (t : Task) : Prop :=
  ∀ b next, t.apply b = .ok next → ∃ m ≤ limit, next.Holds m

/-- **The output of a task has no more pixels than its input.** -/
def Shrinks (t : Task) : Prop :=
  ∀ b next n, b.Holds n → t.apply b = .ok next → ∃ m ≤ n, next.Holds m

variable {op : String} {change : Picture → Except Error Picture} {limit : Nat} {b next : Buffer}

theorem within_transform (h : ∀ p q, change p = .ok q → q.area ≤ limit) :
    (transform op change).Within limit := by
  intro b next hnext
  obtain ⟨d, q, -, hchange, hencode⟩ := apply_transform_eq_ok_iff.1 hnext
  exact ⟨q.area, h _ _ hchange, Buffer.holds_of_encode hencode⟩

theorem shrinks_transform (h : ∀ p q, change p = .ok q → q.area ≤ p.area) :
    (transform op change).Shrinks := by
  intro b next n hn hnext
  obtain ⟨d, q, hd, hchange, hencode⟩ := apply_transform_eq_ok_iff.1 hnext
  rw [hn.eq_area hd]
  exact ⟨q.area, h _ _ hchange, Buffer.holds_of_encode hencode⟩

theorem shrinks_keep : keep.Shrinks := by
  intro b next n hn hnext
  cases hnext
  exact ⟨n, le_rfl, hn⟩

end Task

/-! ## (2) Operations -/

variable {config : Config.Pipeline} {limit : Nat} {ps : Params} {t : Task}

/-- A picture of just the sides that were checked. -/
theorem within_of_check {op : String} {w h : Nat} {change : Picture → Picture}
    (hwidth : ∀ p, (change p).width = w) (hheight : ∀ p, (change p).height = h)
    (hcheck : checkOutputSize op w h limit = .ok ()) :
    (transform op fun p => .ok (change p)).Within limit := by
  refine Task.within_transform fun p q hq => ?_
  cases hq
  rw [Picture.area, hwidth, hheight]
  exact checkOutputSize_eq_ok_iff.1 hcheck

theorem area_of_cropChange {x y w h : Nat} {p q : Picture} (hq : cropChange x y w h p = .ok q) :
    q.area ≤ p.area := by
  unfold cropChange at hq
  split at hq
  · rename_i hinside
    cases hq
    exact Nat.mul_le_mul (by simp; omega) (by simp; omega)
  · cases hq

/-- **What is fitted is what was checked**: the size that is made is the one that the check looks
at. -/
theorem area_of_fitWithin {op : String} {w h : Nat} (hw : IsSide w) (hh : IsSide h) {p q : Picture}
    (hq : fitWithin op limit w h p = .ok q) : q.area ≤ limit := by
  obtain ⟨hle, rfl⟩ := fitWithin_eq_ok_iff.1 hq
  rw [Picture.area, p.width_fitInside hw hh, p.height_fitInside hw hh]
  exact hle

theorem shrinks_jpegWork (level : Nat) : (Task.work (jpegWork level)).Shrinks := by
  intro b next n hn hnext
  obtain ⟨d, hd, hencode⟩ := bind_eq_ok_iff.1 hnext
  rw [hn.eq_area hd]
  exact ⟨_, le_rfl, Buffer.holds_of_encodeJpeg hencode⟩

theorem shrinks_maskWork (low high : Number) : (Task.work (maskWork low high)).Shrinks := by
  intro b next n hn hnext
  obtain ⟨d, mask, hd, rfl⟩ := exists_mask_of_maskWork hnext
  rw [hn.eq_area hd]
  exact ⟨_, (mask.area_apply d.picture).le, Buffer.holds_encodePng _⟩

/-- The tags whose operations always check the limit. -/
def limitedTags : List String := ["c_fill", "c_thumb", "g_auto", "c_pad", "c_scale", "c_fit"]

/-- **The calls that check the limit**: those of these tags, and reshaping with a side given. -/
def IsLimited (tag : String) (ps : Params) : Prop :=
  tag ∈ limitedTags ∨ tag = "ar" ∧ (ps.contains "w" = true ∨ ps.contains "h" = true)

instance (tag : String) (ps : Params) : Decidable (IsLimited tag ps) :=
  inferInstanceAs (Decidable (_ ∨ _ ∧ (_ ∨ _)))

/-- No calls of the other tags check it. -/
theorem not_isLimited {tag : String} (h : tag ∉ limitedTags ∧ tag ≠ "ar") (ps : Params) :
    ¬IsLimited tag ps
  | .inl htag => h.1 htag
  | .inr har => h.2 har.1

/-- **Every task stays within the limit or within its input**, and within the limit where its call
checks it. -/
theorem IsTaskOf.within_or_shrinks {tag : String} (h : IsTaskOf config tag ps t) :
    t.Within config.maxOutputPixels ∨ ¬IsLimited tag ps ∧ t.Shrinks := by
  cases h with
  | fill _ _ _ hcheck =>
    exact .inl (within_of_check (fun p => p.width_cover _ _) (fun p => p.height_cover _ _) hcheck)
  | crop x y htag =>
    subst htag
    exact .inr ⟨not_isLimited (by decide) ps,
      Task.shrinks_transform fun p q hq => area_of_cropChange hq⟩
  | pad colour _ _ _ hcheck =>
    exact .inl (within_of_check (fun p => p.width_pad _ _ _) (fun p => p.height_pad _ _ _) hcheck)
  | fit _ hw hh =>
    exact .inl (Task.within_transform fun p q =>
      area_of_fitWithin (Params.isSide_getD_dimension hw) (Params.isSide_getD_dimension hh))
  | flatten colour htag =>
    subst htag
    refine .inr ⟨not_isLimited (by decide) ps, Task.shrinks_transform fun p q hq => ?_⟩
    cases hq
    simp only [Picture.area, Picture.width_flatten, Picture.height_flatten, le_refl]
  | reshape _ _ _ _ _ hcheck =>
    exact .inl (within_of_check (fun p => p.width_cover _ _) (fun p => p.height_cover _ _) hcheck)
  | keep htag _ hw hh =>
    refine .inr ⟨?_, Task.shrinks_keep⟩
    subst htag
    -- without a side there is nothing to check
    rw [IsLimited, ← Params.isSome_of_dimension hw, ← Params.isSome_of_dimension hh]
    decide
  | quality htag =>
    have hother : ∀ tag ∈ qualityTags, tag ∉ limitedTags ∧ tag ≠ "ar" := by decide
    exact .inr ⟨not_isLimited (hother tag htag) ps, shrinks_jpegWork _⟩
  | removeBackground htag =>
    subst htag
    exact .inr ⟨not_isLimited (by decide) ps, shrinks_maskWork _ _⟩

/-! ## (3) Steps of a chain -/

variable {s : Spec} {found : Resolved (ImageChain.Operation Buffer)} {b next : Buffer} {n : Nat}

/-- **A step that checks the limit stays within it.** -/
theorem within_of_step (hfound : (registry config).resolve s = some found)
    (hlimited : IsLimited found.tag found.params) (hnext : ImageChain.step found b = .ok next) :
    ∃ m ≤ config.maxOutputPixels, next.Holds m := by
  obtain ⟨t, htask, happly⟩ := exists_isTaskOf_of_step hfound hnext
  rcases htask.within_or_shrinks with hwithin | ⟨hunlimited, -⟩
  · exact hwithin b next happly
  · exact absurd hlimited hunlimited

/-- **A step makes nothing larger than what comes in and than the limit.** -/
theorem le_max_of_step (hfound : (registry config).resolve s = some found) (hb : b.Holds n)
    (hnext : ImageChain.step found b = .ok next) :
    ∃ m ≤ max n config.maxOutputPixels, next.Holds m := by
  obtain ⟨t, htask, happly⟩ := exists_isTaskOf_of_step hfound hnext
  rcases htask.within_or_shrinks with hwithin | ⟨-, hshrinks⟩
  · obtain ⟨m, hm, hholds⟩ := hwithin b next happly
    exact ⟨m, le_max_of_le_right hm, hholds⟩
  · obtain ⟨m, hm, hholds⟩ := hshrinks b next n hb happly
    exact ⟨m, le_max_of_le_left hm, hholds⟩

/-! ## (4) Chains -/

/-- **The budget of a chain**: its output is a picture that has no more pixels than the source or
than the limit. -/
theorem le_max_of_run {chain : Chain} {output : Buffer} (hb : b.Holds n)
    (h : run config b chain = .ok output) :
    ∃ m ≤ max n config.maxOutputPixels, output.Holds m := by
  refine Registry.fold_induction (fun b => ∃ m ≤ max n config.maxOutputPixels, b.Holds m)
    (fun s _ found hfound state next hstate hnext => ?_) ⟨n, le_max_left _ _, hb⟩
    (ImageChain.run_eq_ok_iff.1 h)
  obtain ⟨m, hm, hholds⟩ := hstate
  -- the limit is the same for all steps, so the larger of the two bounds every one of them
  obtain ⟨m', hm', hholds'⟩ := le_max_of_step hfound hholds hnext
  exact ⟨m', hm'.trans (max_le hm (le_max_right _ _)), hholds'⟩

/-- A run of one spec is a step. -/
theorem step_of_run (hfound : (registry config).resolve s = some found)
    (h : run config b [s] = .ok next) : ImageChain.step found b = .ok next := by
  have hfold := ImageChain.run_eq_ok_iff.1 h
  rw [Registry.fold_cons_of_some hfound] at hfold
  obtain ⟨middle, hstep, hrest⟩ := bind_eq_ok_iff.1 hfold
  cases hrest
  exact hstep

/-- **The budget of pixels.** Where a chain over a source that can be decoded goes well, the output
is a picture with no more pixels than the source or than the limit. A single call that checks the
limit gives no more pixels than the limit allows. The product in the check is exact: for sides of 32
bits it is the product in 64 bits, which does not wrap. -/
theorem run_within (config : Config.Pipeline) :
    (∀ op source d chain output, source.decode op = .ok d → run config source chain = .ok output →
      output.HoldsWithin (max (d.picture.width * d.picture.height) config.maxOutputPixels)) ∧
    (∀ source s found output, (registry config).resolve s = some found →
      IsLimited found.tag found.params → run config source [s] = .ok output →
        output.HoldsWithin config.maxOutputPixels) ∧
    ∀ (op : String) (w h : UInt32) (limit : Nat),
      (w.toUInt64 * h.toUInt64).toNat = w.toNat * h.toNat ∧
      (checkOutputSize op w.toNat h.toNat limit = .ok () ↔
        (w.toUInt64 * h.toUInt64).toNat ≤ limit) := by
  refine ⟨fun op source d chain output hd h => ?_,
    fun source s found output hfound hlimited h => ?_, fun op w h limit => ?_⟩
  · obtain ⟨m, hm, hholds⟩ := le_max_of_run (Buffer.holds_of_decode hd) h
    exact hholds.within hm
  · obtain ⟨m, hm, hholds⟩ := within_of_step hfound hlimited (step_of_run hfound h)
    exact hholds.within hm
  · rw [toNat_mul_toUInt64]
    exact ⟨rfl, checkOutputSize_eq_ok_iff⟩

/-- A picture of one row. -/
def stripe : Picture := ⟨.rgba8, Grid.replicate 40 1 ⟨16, 32, 48, 255⟩⟩

/-- A limit of 400 pixels. -/
def tightConfig : Config.Pipeline := { maxOutputPixels := 400 }

/-- A spec that asks for a cover of 20 by 20 pixels. -/
def coverSpec : Spec :=
  ⟨"c_fill", .ofList [("w", .number (.ofNat 20)), ("h", .number (.ofNat 20))]⟩

/-- The row becomes as large as the limit allows, and stays so; sides whose product is `2 ^ 32` are
too large. -/
theorem run_within_sample :
    (Buffer.encodePng stripe).decode "c_fill" = .ok ⟨stripe, .png⟩ ∧
    (∃ output, run tightConfig (Buffer.encodePng stripe) [coverSpec, ⟨"b_auto", .empty⟩]
        = .ok output ∧ output.HoldsWithin (max (40 * 1) 400)) ∧
    (∃ output, run tightConfig (Buffer.encodePng stripe) [coverSpec] = .ok output ∧
      output.HoldsWithin 400) ∧
    checkOutputSize "c_fill" (65536 : UInt32).toNat (65536 : UInt32).toNat 400 ≠ .ok () := by
  have hdecode : (Buffer.encodePng stripe).decode "c_fill" = .ok ⟨stripe, .png⟩ := rfl
  have hchain : run tightConfig (Buffer.encodePng stripe) [coverSpec, ⟨"b_auto", .empty⟩]
      = .ok (Buffer.encodePng ((stripe.cover 20 20).flatten .white)) := rfl
  have hsingle : run tightConfig (Buffer.encodePng stripe) [coverSpec]
      = .ok (Buffer.encodePng (stripe.cover 20 20)) := rfl
  have hfound : (registry tightConfig).resolve coverSpec
      = some ⟨"c_fill", attempt false (fill "c_fill" 400), coverSpec.params⟩ := rfl
  have hlimited : IsLimited "c_fill" coverSpec.params := by decide
  obtain ⟨hrun, hstep, hcheck⟩ := run_within tightConfig
  refine ⟨hdecode, ⟨_, hchain, hrun _ _ _ _ _ hdecode hchain⟩,
    ⟨_, hsingle, hstep _ _ _ _ hfound hlimited hsingle⟩, fun hok => ?_⟩
  exact absurd ((hcheck "c_fill" 65536 65536 400).2.1 hok) (by decide)

end Image

end MediaTransform
