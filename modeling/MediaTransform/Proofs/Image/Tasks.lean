import MediaTransform.Proofs.Image.Sequence
import MediaTransform.Proofs.Image.Size

/-! # What operations do once their parameters are read

* **`Image.IsTaskOf`** — the tasks that a tag and parameters can stand for, with what was read from
  the parameters: one case for each kind of task.
* **`Image.isTaskOf`** — every registered operation does such a task.
* **`Image.exists_isTaskOf_of_step`** — and so does every step of a chain; `run_cons_eq_ok_iff` goes
  through a run step by step. -/

namespace MediaTransform

namespace Image

/-! ## (1) The work of a task -/

section Work

variable {op : String} {change : Picture → Except Error Picture} {b next : Buffer}

/-- **What a change of pictures makes of contents.** -/
theorem Task.apply_transform_eq_ok_iff :
    (transform op change).apply b = .ok next ↔
      ∃ d p, b.decode op = .ok d ∧ change d.picture = .ok p ∧
        Buffer.encode op p d.format = .ok next := by
  constructor
  · intro h
    obtain ⟨d, hd, h⟩ := bind_eq_ok_iff.1 h
    obtain ⟨p, hp, hencode⟩ := bind_eq_ok_iff.1 h
    exact ⟨d, p, hd, hp, hencode⟩
  · rintro ⟨d, p, hd, hp, hencode⟩
    exact bind_eq_ok_iff.2 ⟨d, hd, bind_eq_ok_iff.2 ⟨p, hp, hencode⟩⟩

/-- **What an operation makes of contents** whose picture it changes. -/
theorem apply_of_transform {o : Operation} {ps : Params} {d : Buffer.Decoded} {p : Picture}
    (ho : o ps = .ok (transform op change)) (hd : b.decode op = .ok d)
    (hp : change d.picture = .ok p) : o.apply b ps = Buffer.encode op p d.format := by
  rw [Operation.apply, ho]
  show (b.decode op).bind _ = _
  rw [hd]
  show (change d.picture).bind _ = _
  rw [hp]
  rfl

/-- **What background removal makes of contents.** -/
theorem maskWork_eq_ok_iff {low high : Number} :
    maskWork low high b = .ok next ↔
      ∃ d mask, b.decode removalTag = .ok d ∧
        Mask.foreground d.picture.luminance low high = some mask ∧
        next = Buffer.encodePng ⟨.rgba8, mask.apply d.picture.toRgba8.grid⟩ := by
  constructor
  · intro h
    obtain ⟨d, hd, h⟩ := bind_eq_ok_iff.1 h
    split at h
    · rename_i mask hmask
      cases h
      exact ⟨d, mask, hd, hmask, rfl⟩
    · cases h
  · rintro ⟨d, mask, hd, hmask, rfl⟩
    refine bind_eq_ok_iff.2 ⟨d, hd, ?_⟩
    rw [hmask]
    rfl

theorem exists_mask_of_maskWork {low high : Number} (h : maskWork low high b = .ok next) :
    ∃ (d : Buffer.Decoded) (mask : Mask), b.decode removalTag = .ok d ∧
      next = Buffer.encodePng ⟨.rgba8, mask.apply d.picture.toRgba8.grid⟩ := by
  obtain ⟨d, mask, hd, -, hnext⟩ := maskWork_eq_ok_iff.1 h
  exact ⟨d, mask, hd, hnext⟩

end Work

/-! ## (2) Tasks -/

/-- The tags whose operations cover a box of two given sides. -/
def fillTags : List String := ["c_fill", "c_thumb", "g_auto"]

/-- The tags whose operations fit a picture in a box. -/
def fitTags : List String := ["c_scale", "c_fit"]

/-- The tags of quality. -/
def qualityTags : List String := ["q", "q_auto"]

/-- **The tasks of a tag with parameters**, and what was read from the parameters. -/
inductive IsTaskOf (config : Config.Pipeline) (tag : String) (ps : Params) : Task → Prop where
  | fill {w h : Nat} (htag : tag ∈ fillTags) (hw : ps.dimension tag "w" = .ok (some w))
      (hh : ps.dimension tag "h" = .ok (some h))
      (hcheck : checkOutputSize tag w h config.maxOutputPixels = .ok ()) :
      IsTaskOf config tag ps (transform tag fun p => .ok (p.cover w h))
  | crop {w h : Nat} (x y : Nat) (htag : tag = "c_crop")
      (hw : ps.dimension tag "w" = .ok (some w)) (hh : ps.dimension tag "h" = .ok (some h)) :
      IsTaskOf config tag ps (transform tag (cropChange x y w h))
  | pad {w h : Nat} (colour : Colour) (htag : tag = "c_pad")
      (hw : ps.dimension tag "w" = .ok (some w)) (hh : ps.dimension tag "h" = .ok (some h))
      (hcheck : checkOutputSize tag w h config.maxOutputPixels = .ok ()) :
      IsTaskOf config tag ps (transform tag fun p => .ok (p.pad w h colour))
  | fit {w h : Option Nat} (htag : tag ∈ fitTags) (hw : ps.dimension tag "w" = .ok w)
      (hh : ps.dimension tag "h" = .ok h) :
      IsTaskOf config tag ps (transform tag
        (fitWithin tag config.maxOutputPixels (w.getD maxSide) (h.getD maxSide)))
  | flatten (colour : Colour) (htag : tag = "b_auto") :
      IsTaskOf config tag ps (transform tag fun p => .ok (p.flatten colour))
  | reshape {ratio : Number} {w h : Option Nat} {size : Nat × Nat} (htag : tag = "ar")
      (hratio : ps.requireNumber tag "ar" = .ok ratio) (hw : ps.dimension tag "w" = .ok w)
      (hh : ps.dimension tag "h" = .ok h) (hsize : aspectDimensions w h ratio = some size)
      (hcheck : checkOutputSize tag size.1 size.2 config.maxOutputPixels = .ok ()) :
      IsTaskOf config tag ps (transform tag fun p => .ok (p.cover size.1 size.2))
  | keep {ratio : Number} (htag : tag = "ar") (hratio : ps.requireNumber tag "ar" = .ok ratio)
      (hw : ps.dimension tag "w" = .ok none) (hh : ps.dimension tag "h" = .ok none) :
      IsTaskOf config tag ps .keep
  | quality (htag : tag ∈ qualityTags) :
      IsTaskOf config tag ps
        (.work (jpegWork (Video.qualityLevel 100 config.defaultImageQuality ps)))
  | removeBackground (htag : tag = removalTag) :
      IsTaskOf config tag ps
        (.work (maskWork (threshold ps "lowerThreshold" 50) (threshold ps "upperThreshold" 150)))

section Operations

variable {config : Config.Pipeline} {tag : String} {ps : Params} {t : Task}

theorem isTaskOf_fill (htag : tag ∈ fillTags) (h : fill tag config.maxOutputPixels ps = .ok t) :
    IsTaskOf config tag ps t := by
  obtain ⟨w, hw, h⟩ := bind_eq_ok_iff.1 h
  obtain ⟨h', hh, h⟩ := bind_eq_ok_iff.1 h
  obtain ⟨⟨⟩, hcheck, h⟩ := bind_eq_ok_iff.1 h
  cases h
  exact .fill htag (Params.requireDimension_eq_ok_iff_dimension.1 hw)
    (Params.requireDimension_eq_ok_iff_dimension.1 hh) hcheck

theorem isTaskOf_crop (h : crop ps = .ok t) : IsTaskOf config "c_crop" ps t := by
  obtain ⟨w, hw, h⟩ := bind_eq_ok_iff.1 h
  obtain ⟨h', hh, h⟩ := bind_eq_ok_iff.1 h
  obtain ⟨x, -, h⟩ := bind_eq_ok_iff.1 h
  obtain ⟨y, -, h⟩ := bind_eq_ok_iff.1 h
  cases h
  exact .crop x y rfl (Params.requireDimension_eq_ok_iff_dimension.1 hw)
    (Params.requireDimension_eq_ok_iff_dimension.1 hh)

theorem isTaskOf_pad (h : pad config.maxOutputPixels ps = .ok t) :
    IsTaskOf config "c_pad" ps t := by
  obtain ⟨w, hw, h⟩ := bind_eq_ok_iff.1 h
  obtain ⟨h', hh, h⟩ := bind_eq_ok_iff.1 h
  obtain ⟨⟨⟩, hcheck, h⟩ := bind_eq_ok_iff.1 h
  cases h
  exact .pad _ rfl (Params.requireDimension_eq_ok_iff_dimension.1 hw)
    (Params.requireDimension_eq_ok_iff_dimension.1 hh) hcheck

theorem isTaskOf_scale (h : scale config.maxOutputPixels ps = .ok t) :
    IsTaskOf config "c_scale" ps t := by
  obtain ⟨w, hw, h⟩ := bind_eq_ok_iff.1 h
  obtain ⟨h', hh, h⟩ := bind_eq_ok_iff.1 h
  dsimp only at h
  split at h
  · cases h
  · cases h
    exact .fit (by decide) hw hh

theorem isTaskOf_fit (h : fit config.maxOutputPixels ps = .ok t) :
    IsTaskOf config "c_fit" ps t := by
  obtain ⟨w, hw, h⟩ := bind_eq_ok_iff.1 h
  obtain ⟨h', hh, h⟩ := bind_eq_ok_iff.1 h
  cases h
  exact .fit (w := some w) (h := some h') (by decide)
    (Params.requireDimension_eq_ok_iff_dimension.1 hw)
    (Params.requireDimension_eq_ok_iff_dimension.1 hh)

theorem isTaskOf_reshape (h : reshape config.maxOutputPixels ps = .ok t) :
    IsTaskOf config "ar" ps t := by
  obtain ⟨ratio, hratio, h⟩ := bind_eq_ok_iff.1 h
  obtain ⟨w, hw, h⟩ := bind_eq_ok_iff.1 h
  obtain ⟨h', hh, h⟩ := bind_eq_ok_iff.1 h
  have hnumber : ps.requireNumber "ar" "ar" = .ok ratio := by
    obtain ⟨x, hx, hratio⟩ := bind_eq_ok_iff.1 hratio
    dsimp only at hratio
    split at hratio
    · cases hratio
    · cases hratio
      exact hx
  cases hsize : aspectDimensions w h' ratio with
  | some size =>
    rw [hsize] at h
    obtain ⟨⟨⟩, hcheck, h⟩ := bind_eq_ok_iff.1 h
    cases h
    exact .reshape rfl hnumber hw hh hsize hcheck
  | none =>
    rw [hsize] at h
    cases h
    -- there is no box only where no side is given
    cases w with
    | some w => cases hsize
    | none =>
      cases h' with
      | some h' => cases hsize
      | none => exact .keep rfl hnumber hw hh

theorem isTaskOf_removeBackground (h : removeBackground ps = .ok t) :
    IsTaskOf config removalTag ps t := by
  unfold removeBackground at h
  dsimp only at h
  split at h
  · cases h
  · cases h
    exact .removeBackground rfl

/-- **Every registered operation does a task of its tag.** -/
theorem isTaskOf {o : Operation} (h : (tag, o) ∈ operations config) (ht : o ps = .ok t) :
    IsTaskOf config tag ps t := by
  simp only [operations, List.mem_cons, Prod.mk.injEq, List.not_mem_nil, or_false] at h
  rcases h with ⟨rfl, rfl⟩ | ⟨rfl, rfl⟩ | ⟨rfl, rfl⟩ | ⟨rfl, rfl⟩ | ⟨rfl, rfl⟩ | ⟨rfl, rfl⟩ |
    ⟨rfl, rfl⟩ | ⟨rfl, rfl⟩ | ⟨rfl, rfl⟩ | ⟨rfl, rfl⟩ | ⟨rfl, rfl⟩ | ⟨rfl, rfl⟩
  · exact isTaskOf_fill (by decide) ht
  · exact isTaskOf_fill (by decide) ht
  · exact isTaskOf_fill (by decide) ht
  · exact isTaskOf_crop ht
  · exact isTaskOf_pad ht
  · exact isTaskOf_scale ht
  · exact isTaskOf_fit ht
  · cases ht
    exact .flatten _ rfl
  · exact isTaskOf_reshape ht
  · cases ht
    exact .quality (by decide)
  · cases ht
    exact .quality (by decide)
  · exact isTaskOf_removeBackground ht

end Operations

/-! ## (3) Steps of a chain -/

section Steps

variable {config : Config.Pipeline} {s : Spec} {found : Resolved (ImageChain.Operation Buffer)}
  {b next : Buffer} {instantly : Bool} {tag : String} {o : Operation} {ps : Params}

/-- Parameters that cannot be read fail in the name of their tag. -/
theorem step_of_error {e : Error} (ho : o ps = .error e) (b : Buffer) :
    ImageChain.step ⟨tag, attempt instantly o, ps⟩ b
      = .error (.failed (Error.ascribe tag e)) := by
  simp only [ImageChain.step, attempt, ho]

theorem step_of_keep (ho : o ps = .ok .keep) (b : Buffer) :
    ImageChain.step ⟨tag, attempt instantly o, ps⟩ b = .ok b := by
  simp only [ImageChain.step, attempt, ho]

/-- Whether work is cut off when there is no time: where its picture or its result is large. -/
def isCutOff (instantly : Bool) (input : Buffer) (result : Except Error Buffer) : Bool :=
  instantly && (decide (instantArea < areaOf input) ||
    result.toOption.any fun next => decide (instantArea < areaOf next))

/-- **What comes of a step with work to do**: it is cut off, or it ends as its work does. -/
theorem step_of_work {f : Buffer → Except Error Buffer} (ho : o ps = .ok (.work f)) (b : Buffer) :
    ImageChain.step ⟨tag, attempt instantly o, ps⟩ b =
      if isCutOff instantly b (f b) then .error .overtime
      else (f b).mapError fun e => .failed (Error.ascribe tag e) := by
  have hattempt : attempt instantly o b ps
      = if isCutOff instantly b (f b) then .hangs else .ofExcept (f b) := by
    rw [attempt, ho]
    rfl
  simp only [ImageChain.step, hattempt]
  cases isCutOff instantly b (f b) with
  | true => rfl
  | false =>
    cases f b with
    | ok next => rfl
    | error e => rfl

/-- The handler of a spec attempts an operation of its tag. -/
theorem exists_operation_of_resolve (h : (registry config).resolve s = some found) :
    ∃ op, (found.tag, op) ∈ operations config ∧
      found.handler = attempt (config.imageTimeoutSecs == 0) op := by
  obtain ⟨⟨tag, op⟩, hop, hhandler⟩ :=
    List.mem_map.1 (Dictionary.mem_of_mem_ofList (Registry.resolve_cases h).1)
  obtain ⟨rfl, hattempt⟩ := Prod.mk.inj hhandler
  exact ⟨op, hop, hattempt.symm⟩

/-- **A tag has one operation.** -/
theorem operation_unique {o o' : Operation} (h : (tag, o) ∈ operations config)
    (h' : (tag, o') ∈ operations config) : o = o' := by
  have hnodup : ((operations config).map Prod.fst).Nodup := by
    simp [operations, removalTag]
  exact (Prod.mk.inj (List.inj_on_of_nodup_map hnodup h h' rfl)).2

/-- The handler of a spec attempts the operation of its tag. -/
theorem handler_of_resolve (hfound : (registry config).resolve s = some found)
    (ho : (found.tag, o) ∈ operations config) :
    found = ⟨found.tag, attempt (config.imageTimeoutSecs == 0) o, found.params⟩ := by
  obtain ⟨o', ho', hhandler⟩ := exists_operation_of_resolve hfound
  rw [operation_unique ho ho', ← hhandler]

/-- **A step that goes well is an operation that does.** -/
theorem apply_of_step (hfound : (registry config).resolve s = some found)
    (ho : (found.tag, o) ∈ operations config) (hnext : ImageChain.step found b = .ok next) :
    o.apply b found.params = .ok next := by
  rw [handler_of_resolve hfound ho] at hnext
  cases ht : o found.params with
  | error e =>
    rw [step_of_error ht] at hnext
    cases hnext
  | ok t =>
    refine bind_eq_ok_iff.2 ⟨t, ht, ?_⟩
    cases t with
    | keep =>
      rw [step_of_keep ht] at hnext
      cases hnext
      rfl
    | work f =>
      rw [step_of_work ht] at hnext
      -- a step that is not cut off has the result of its work
      split at hnext
      · cases hnext
      · exact mapError_eq_ok_iff.1 hnext

/-- **A step that goes well is a task of its tag that does.** -/
theorem exists_isTaskOf_of_step (hfound : (registry config).resolve s = some found)
    (hnext : ImageChain.step found b = .ok next) :
    ∃ t, IsTaskOf config found.tag found.params t ∧ t.apply b = .ok next := by
  obtain ⟨o, ho, -⟩ := exists_operation_of_resolve hfound
  obtain ⟨t, ht, hnext⟩ := bind_eq_ok_iff.1 (apply_of_step hfound ho hnext)
  exact ⟨t, isTaskOf ho ht, hnext⟩

/-- **A step with time** is the operation, whose errors bear the tag. -/
theorem step_of_time (b : Buffer) :
    ImageChain.step ⟨tag, attempt false o, ps⟩ b
      = (o.apply b ps).mapError fun e => .failed (Error.ascribe tag e) := by
  unfold Operation.apply
  cases ht : o ps with
  | error e =>
    rw [step_of_error ht]
    rfl
  | ok t =>
    cases t with
    | keep =>
      rw [step_of_keep ht]
      rfl
    | work f =>
      rw [step_of_work ht]
      rfl

/-- **A run with time** is the operation that is found for its first spec, and then the rest of the
run. -/
theorem run_cons (htime : config.imageTimeoutSecs ≠ 0)
    (hfound : (registry config).resolve s = some found) (ho : (found.tag, o) ∈ operations config)
    (source : Buffer) (rest : Chain) :
    run config source (s :: rest) = ((o.apply source found.params).mapError
      (Error.ascribe found.tag)).bind (run config · rest) := by
  rw [run, ImageChain.run, Registry.fold_cons_of_some hfound, handler_of_resolve hfound ho,
    beq_eq_false_iff_ne.2 htime, step_of_time]
  cases o.apply source found.params with
  | ok next => rfl
  | error e => rfl

theorem run_cons_eq_ok_iff (htime : config.imageTimeoutSecs ≠ 0)
    (hfound : (registry config).resolve s = some found) (ho : (found.tag, o) ∈ operations config)
    {source output : Buffer} {rest : Chain} :
    run config source (s :: rest) = .ok output ↔
      ∃ next, o.apply source found.params = .ok next ∧ run config next rest = .ok output := by
  rw [run_cons htime hfound ho, bind_eq_ok_iff]
  simp only [mapError_eq_ok_iff]

end Steps

end Image

end MediaTransform
