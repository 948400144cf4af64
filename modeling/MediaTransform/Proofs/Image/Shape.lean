import MediaTransform.Proofs.Image.Tasks
import MediaTransform.Proofs.Image.Tracing

/-! # Pictures that differ in nothing but their pixels

* **`Picture.Alike`**, **`Buffer.Alike`** — pictures of one colour type and one size, and contents
  that are decoded to such.
* **`Image.Task.Uniform`** — tasks that do alike with alike contents, in success and in failure;
  `IsTaskOf.uniform` has one case for each kind of task.
* **`Image.run_agrees`** — and so do whole chains. -/

namespace MediaTransform

/-! ## (1) Pictures -/

namespace Picture

/-- **Pictures of one colour type and one size.** -/
structure Alike (p q : Picture) : Prop where
  colour : p.colour = q.colour
  width : p.width = q.width
  height : p.height = q.height

@[simp] theorem colour_crop (p : Picture) (x y w h : Nat) :
    (p.crop x y w h).colour = p.colour := rfl

@[simp] theorem colour_cover (p : Picture) (w h : Nat) : (p.cover w h).colour = p.colour := by
  obtain ⟨x, y, hcover⟩ := p.exists_cover_eq_crop w h
  rw [hcover, colour_crop, coverWhole, colour_resizeExact]

@[simp] theorem colour_restored_jpeg (p : Picture) (quality : Nat) :
    (Jpeg.restored p quality).colour = ⟨false, p.colour.coloured, false⟩ := by
  unfold Jpeg.restored Jpeg.channels
  cases p.colour.coloured with
  | true => rfl
  | false => rfl

namespace Alike

variable {p q : Picture}

theorem area (h : p.Alike q) : p.area = q.area := by
  rw [Picture.area, Picture.area, h.width, h.height]

theorem cover (hpq : p.Alike q) (w h : Nat) : (p.cover w h).Alike (q.cover w h) :=
  ⟨by simp [hpq.colour], by simp, by simp⟩

theorem crop (hpq : p.Alike q) (x y w h : Nat) : (p.crop x y w h).Alike (q.crop x y w h) :=
  ⟨hpq.colour, rfl, rfl⟩

theorem fitSize (hpq : p.Alike q) (w h : Nat) : p.fitSize w h = q.fitSize w h := by
  rw [Picture.fitSize, Picture.fitSize, hpq.width, hpq.height]

theorem fitInside (hpq : p.Alike q) (w h : Nat) : (p.fitInside w h).Alike (q.fitInside w h) := by
  rw [Picture.fitInside, Picture.fitInside, hpq.fitSize]
  exact ⟨by simp [hpq.colour], by simp, by simp⟩

theorem flatten (hpq : p.Alike q) (background : Colour) :
    (p.flatten background).Alike (q.flatten background) :=
  ⟨rfl, by simp [hpq.width], by simp [hpq.height]⟩

theorem toRgba8 (hpq : p.Alike q) : p.toRgba8.Alike q.toRgba8 :=
  ⟨rfl, by simp [hpq.width], by simp [hpq.height]⟩

theorem toRgb8 (hpq : p.Alike q) : p.toRgb8.Alike q.toRgb8 :=
  ⟨rfl, by simp [hpq.width], by simp [hpq.height]⟩

theorem inColour (hpq : p.Alike q) (alpha : Bool) :
    (Encoded.inColour alpha p).Alike (Encoded.inColour alpha q) := by
  rw [Encoded.inColour, Encoded.inColour, hpq.colour]
  split
  · exact hpq
  · split
    · exact hpq.toRgba8
    · exact hpq.toRgb8

/-- Whether a format can hold a picture is a matter of colour type and size. -/
theorem accepts (hpq : p.Alike q) (f : ImageFormat) : f.accepts p = f.accepts q := by
  rw [ImageFormat.accepts, ImageFormat.accepts, hpq.colour, hpq.width, hpq.height]

end Alike

end Picture

/-! ## (2) Contents -/

namespace Encoded

/-- **Alike pictures in one format are decoded alike**, or both are not. -/
theorem picture?_alike {e e' : Encoded} (hformat : e.format = e'.format)
    (hpicture : e.picture.Alike e'.picture) :
    (e.picture? = none ∧ e'.picture? = none) ∨
      ∃ p q, e.picture? = some p ∧ e'.picture? = some q ∧ p.Alike q := by
  rw [picture?, picture?, ← hformat, ← hpicture.colour]
  split
  · split
    · exact .inr ⟨_, _, rfl, rfl, hpicture⟩
    · exact .inl ⟨rfl, rfl⟩
  · exact .inr ⟨_, _, rfl, rfl, rfl, hpicture.width, hpicture.height⟩
  · exact .inr ⟨_, _, rfl, rfl, by simp [hpicture.colour], by simp [hpicture.width],
      by simp [hpicture.height]⟩
  · exact .inr ⟨_, _, rfl, rfl, hpicture.inColour false⟩
  · exact .inr ⟨_, _, rfl, rfl, hpicture.inColour true⟩
  · exact .inr ⟨_, _, rfl, rfl, hpicture⟩

end Encoded

namespace Buffer

/-- **Decoded pictures of one format, colour type and size.** -/
structure Decoded.Alike (d d' : Decoded) : Prop where
  format : d.format = d'.format
  picture : d.picture.Alike d'.picture

/-- **Contents that differ in nothing but pixels**: they are decoded alike, and they have one format
and one size. -/
structure Alike (b c : Buffer) : Prop where
  decode : ∀ op, Agrees Decoded.Alike (b.decode op) (c.decode op)
  outline : b.outline? = c.outline?

variable {b c : Buffer} {op : String} {p q : Picture}

/-- **Contents that are decoded alike are alike.** -/
theorem alike_of_decode {op' : String} {d d' : Decoded} (hb : b.decode op = .ok d)
    (hc : c.decode op' = .ok d') (h : d.Alike d') : b.Alike c := by
  refine ⟨fun op'' => ?_, ?_⟩
  · rw [decode_of_decode hb, decode_of_decode hc]
    exact .ok h
  · rw [outline?_of_decode hb, outline?_of_decode hc, h.format, h.picture.width, h.picture.height]

/-- **Alike pictures are alike in one format.** -/
theorem alike_encoded {e e' : Encoded} (hformat : e.format = e'.format)
    (hpicture : e.picture.Alike e'.picture) : (encoded e).Alike (encoded e') := by
  refine ⟨fun op => ?_, ?_⟩
  · rcases Encoded.picture?_alike hformat hpicture with ⟨hnone, hnone'⟩ | ⟨p, q, hp, hq, hpq⟩
    · simp only [decode, hnone, hnone']
      exact .error _
    · simp only [decode, hp, hq]
      exact .ok ⟨hformat, hpq⟩
  · simp only [outline?, encoded?, Option.map_some, hformat, hpicture.width, hpicture.height]

theorem encodePng_alike (hpq : p.Alike q) : (encodePng p).Alike (encodePng q) :=
  alike_encoded rfl hpq

theorem encodeJpeg_agrees (hpq : p.Alike q) (quality : Nat) :
    Agrees Alike (encodeJpeg op p quality) (encodeJpeg op q quality) := by
  rw [encodeJpeg, encodeJpeg, hpq.accepts]
  split
  · exact .ok (alike_encoded rfl hpq.toRgb8)
  · exact .error _

/-- **Alike pictures are written back alike.** -/
theorem encode_agrees (hpq : p.Alike q) (format : ImageFormat) :
    Agrees Alike (encode op p format) (encode op q format) := by
  rw [encode, encode, hpq.accepts]
  split
  · exact encodeJpeg_agrees hpq _
  · split
    · exact .ok (alike_encoded rfl hpq)
    · exact .ok (encodePng_alike hpq)

end Buffer

/-! ## (3) Tasks -/

namespace Image

/-- Alike contents have as many pixels. -/
theorem areaOf_eq {b c : Buffer} (h : b.Alike c) : areaOf b = areaOf c := by
  have harea : ∀ b : Buffer, areaOf b = (b.outline?.map fun o => o.2.1 * o.2.2).getD 0 := by
    intro b
    rw [areaOf, Buffer.outline?, Option.map_map]
    rfl
  rw [harea, harea, h.outline]

/-- **A task that does alike with alike contents**: it goes well with both, or it fails with both and
with the same error. -/
def Task.Uniform (t : Task) : Prop :=
  ∀ b c : Buffer, b.Alike c → Agrees Buffer.Alike (t.apply b) (t.apply c)

/-- **Whether edges are found is no matter of pixels**: with these thresholds the detector gives
edges for both of two alike pictures or for neither. -/
def EdgesUniform (low high : Number) : Prop :=
  ∀ p q : Picture, p.Alike q →
    (Edges.detect p.luminance low high).isSome = (Edges.detect q.luminance low high).isSome

/-- It is none where the lower threshold is positive. -/
theorem edgesUniform_of_positive {low : Number} (h : ¬low.toFloat32 ≤ 0) (high : Number) :
    EdgesUniform low high := by
  intro p q _
  rw [Edges.isSome_detect h, Edges.isSome_detect h]

section Tasks

variable {config : Config.Pipeline} {tag op : String} {ps : Params} {t : Task}

theorem uniform_transform {change : Picture → Except Error Picture}
    (h : ∀ p q, p.Alike q → Agrees Picture.Alike (change p) (change q)) :
    (transform op change).Uniform := by
  intro b c hbc
  refine (hbc.decode op).bind fun d d' hd => ?_
  refine (h _ _ hd.picture).bind fun p q hpq => ?_
  rw [hd.format]
  exact Buffer.encode_agrees hpq _

theorem cropChange_agrees (x y w h : Nat) {p q : Picture} (hpq : p.Alike q) :
    Agrees Picture.Alike (cropChange x y w h p) (cropChange x y w h q) := by
  rw [cropChange, cropChange, hpq.width, hpq.height]
  split
  · exact .ok (hpq.crop x y w h)
  · exact .error _

theorem fitWithin_agrees (limit w h : Nat) {p q : Picture} (hpq : p.Alike q) :
    Agrees Picture.Alike (fitWithin op limit w h p) (fitWithin op limit w h q) := by
  rw [fitWithin, fitWithin, hpq.width, hpq.height]
  cases checkOutputSize op (fitDimensions q.width q.height w h).1
      (fitDimensions q.width q.height w h).2 limit with
  | ok => exact .ok (hpq.fitInside w h)
  | error e => exact .error e

theorem uniform_jpegWork (level : Nat) : (Task.work (jpegWork level)).Uniform := by
  intro b c hbc
  refine (hbc.decode "q_auto").bind fun d d' hd => ?_
  exact Buffer.encodeJpeg_agrees hd.picture level

theorem uniform_maskWork {low high : Number} (h : EdgesUniform low high) :
    (Task.work (maskWork low high)).Uniform := by
  intro b c hbc
  refine (hbc.decode removalTag).bind fun d d' hd => ?_
  have hedges := h d.picture d'.picture hd.picture
  simp only [Mask.foreground]
  -- edges are found in both pictures or in neither, and the masks are put on pictures of one size
  cases hfound : Edges.detect d.picture.luminance low high with
  | some edges =>
    rw [hfound, Option.isSome_some] at hedges
    obtain ⟨edges', hfound'⟩ := Option.isSome_iff_exists.1 hedges.symm
    rw [hfound']
    exact .ok (Buffer.encodePng_alike ⟨rfl, hd.picture.toRgba8.width, hd.picture.toRgba8.height⟩)
  | none =>
    rw [hfound, Option.isSome_none] at hedges
    rw [Option.not_isSome_iff_eq_none.1 (Bool.eq_false_iff.1 hedges.symm)]
    exact .error _

/-- **Every task is uniform**, background removal where its detector is. -/
theorem IsTaskOf.uniform (h : IsTaskOf config tag ps t)
    (hedges : tag = removalTag →
      EdgesUniform (threshold ps "lowerThreshold" 50) (threshold ps "upperThreshold" 150)) :
    t.Uniform := by
  cases h with
  | fill => exact uniform_transform fun p q hpq => .ok (hpq.cover _ _)
  | crop x y => exact uniform_transform fun p q hpq => cropChange_agrees _ _ _ _ hpq
  | pad colour => exact uniform_transform fun p q _ => .ok ⟨rfl, rfl, rfl⟩
  | fit => exact uniform_transform fun p q hpq => fitWithin_agrees _ _ _ hpq
  | flatten colour => exact uniform_transform fun p q hpq => .ok (hpq.flatten _)
  | reshape => exact uniform_transform fun p q hpq => .ok (hpq.cover _ _)
  | keep => exact fun b c hbc => .ok hbc
  | quality => exact uniform_jpegWork _
  | removeBackground htag => exact uniform_maskWork (hedges htag)

end Tasks

/-! ## (4) Runs -/

section Runs

variable {config : Config.Pipeline} {chain : Chain} {b c : Buffer}

theorem isCutOff_eq (instantly : Bool) (hbc : b.Alike c) {x y : Except Error Buffer}
    (h : Agrees Buffer.Alike x y) : isCutOff instantly b x = isCutOff instantly c y := by
  rw [isCutOff, isCutOff, areaOf_eq hbc]
  cases h with
  | ok hnext => simp only [Except.toOption, Option.any_some, areaOf_eq hnext]
  | error e => rfl

/-- **A step with a uniform task** ends alike with alike contents, also when there is no time. -/
theorem step_agrees {instantly : Bool} {tag : String} {o : Operation} {ps : Params}
    (huniform : ∀ t, o ps = .ok t → t.Uniform) (hbc : b.Alike c) :
    Agrees Buffer.Alike (ImageChain.step ⟨tag, attempt instantly o, ps⟩ b)
      (ImageChain.step ⟨tag, attempt instantly o, ps⟩ c) := by
  cases ht : o ps with
  | error e =>
    rw [step_of_error ht, step_of_error ht]
    exact .error _
  | ok t =>
    cases t with
    | keep =>
      rw [step_of_keep ht, step_of_keep ht]
      exact .ok hbc
    | work f =>
      have hresult : Agrees Buffer.Alike (f b) (f c) := huniform _ ht b c hbc
      rw [step_of_work ht, step_of_work ht, isCutOff_eq instantly hbc hresult]
      split
      · exact .error _
      · exact hresult.mapError _

/-- **The detector of a chain**: with the thresholds of every background removal in it, whether edges
are found is no matter of pixels. -/
def ChainEdgesUniform (config : Config.Pipeline) (chain : Chain) : Prop :=
  ∀ s ∈ chain, ∀ found, (registry config).resolve s = some found → found.tag = removalTag →
    EdgesUniform (threshold found.params "lowerThreshold" 50)
      (threshold found.params "upperThreshold" 150)

/-- **Runs over alike contents agree**: they end in alike contents, or with the same error. -/
theorem run_agrees (hedges : ChainEdgesUniform config chain) (hbc : b.Alike c) :
    Agrees Buffer.Alike (run config b chain) (run config c chain) := by
  refine (Registry.fold_agrees (fun s hs found hfound b c hbc => ?_) hbc).mapError _
  obtain ⟨o, ho, hhandler⟩ := exists_operation_of_resolve hfound
  obtain ⟨tag, handler, ps⟩ := found
  dsimp only at ho hhandler
  subst hhandler
  exact step_agrees (fun t ht => (isTaskOf ho ht).uniform (hedges s hs _ hfound)) hbc

end Runs

end Image

end MediaTransform
