import MediaTransform.Proofs.Image.Budget
import MediaTransform.Proofs.Image.Files
import MediaTransform.Proofs.Image.JpegHead
import MediaTransform.Proofs.Number.Arithmetic

/-! # Formats and qualities through chains

Every operation but quality and background removal writes its picture back in the format that it
found, where that format is written and can hold the picture:

* **`Image.IsRewriting`** — the calls that write a picture: all but reshaping without a side.
* **`Image.formatAfter`**, **`qualityAfter`** — the format and the JPEG quality that such a call
  leaves behind.
* **`Image.IsTaskOf.rewrites_or_keeps`** — one case for each kind of task.
* **`Image.format_of_run`** — the format of an output file follows from the calls of its run, and its
  quality from the last one that writes. -/

namespace MediaTransform

/-! ## (1) Formats -/

/-- **What is decoded has the format of the file**, as its beginning says. -/
theorem Buffer.eq_format_of_decode {b : Buffer} {op : String} {d : Decoded}
    (h : b.decode op = .ok d) {f : ImageFormat} (hf : ImageFormat.recognise b.toBytes = some f) :
    f = d.format := by
  cases b with
  | bytes raw =>
    unfold decode at h
    dsimp only at h
    split at h
    · cases h
    · split at h
      · rename_i e he
        cases h
        -- the format of an encoded picture is the one that its bytes begin like
        obtain ⟨format, hformat, he⟩ := Option.bind_eq_some_iff.1 he
        obtain ⟨p, -, he⟩ := Option.bind_eq_some_iff.1 he
        cases he
        exact Option.some.inj (hf.symm.trans hformat)
      · cases h
  | encoded e =>
    unfold decode at h
    dsimp only at h
    split at h
    · cases h
      exact ImageFormat.eq_of_recognise_encode hf
    · cases h

namespace Image

/-- The formats that a picture is written back in, besides JPEG. -/
def writtenFormats : List ImageFormat := [.png, .gif, .bmp, .tiff, .webp, .ico]

theorem writesBack_iff {f : ImageFormat} : f.writesBack = true ↔ f ∈ writtenFormats := by
  cases f <;> decide

/-! ## (2) Calls -/

/-- A call: the handler found, with its tag and parameters, and the contents that it was given. -/
abbrev Call := Resolved (ImageChain.Operation Buffer) × Buffer

/-- **The calls that write a picture**: all but reshaping where no side is given. -/
def IsRewriting (tag : String) (ps : Params) : Prop :=
  ¬(tag = "ar" ∧ ps.contains "w" = false ∧ ps.contains "h" = false)

instance (tag : String) (ps : Params) : Decidable (IsRewriting tag ps) :=
  inferInstanceAs (Decidable (¬(_ ∧ _ ∧ _)))

/-- The picture that a call makes. -/
def madeBy? (call : Call) : Option Picture :=
  match ImageChain.step call.1 call.2 with
  | .ok next => next.encoded?.map (·.picture)
  | .error _ => none

/-- **The format after an operation** that writes a picture: JPEG after quality, PNG after background
removal, and else the format before, if that is JPEG or is written and can hold the picture, or
PNG. -/
def formatOf (f : ImageFormat) (tag : String) (p : Option Picture) : ImageFormat :=
  if tag ∈ qualityTags then .jpeg
  else if tag = removalTag then .png
  else if f = .jpeg ∨ f ∈ writtenFormats ∧ p.any f.accepts then f
  else .png

/-- The format after a call that writes a picture. -/
def formatAfter (f : ImageFormat) (call : Call) : ImageFormat :=
  formatOf f call.1.tag (madeBy? call)

/-- **A number rounded and held between 1 and 100**: a half goes up, and not-a-number counts as
one. -/
def roundedQuality : Number → Nat
  | .nan => 1
  | .infinite negative => if negative then 1 else 100
  | .finite s m q h => max (min ⌊(Number.finite s m q h).value + 1 / 2⌋₊ 100) 1

/-- **The quality that a request for quality asks for**: its number `quality`, else its number `q`,
else the default. -/
def askedQuality (default : Nat) (ps : Params) : Nat :=
  match (ps.number? "quality").or (ps.number? "q") with
  | some x => roundedQuality x
  | none => max (min default 100) 1

/-- **The quality of a JPEG after an operation** that writes a picture. -/
def qualityOf (default : Nat) (tag : String) (ps : Params) : Nat :=
  if tag ∈ qualityTags then askedQuality default ps else 90

/-- The quality of a JPEG after a call that writes a picture. -/
def qualityAfter (config : Config.Pipeline) (call : Call) : Nat :=
  qualityOf config.defaultImageQuality call.1.tag call.1.params

/-- **The calls of a run that write a picture**, in order. -/
def rewritings (config : Config.Pipeline) (source : Buffer) (chain : Chain) : List Call :=
  (ImageChain.calls (registry config) source chain).filter fun call =>
    IsRewriting call.1.tag call.1.params

/-! ## (3) Qualities -/

/-- **The level of a quality is its number, rounded and held in range.** -/
theorem clampedLevel_eq (x : Number) : Video.clampedLevel 100 x = roundedQuality x := by
  cases x with
  | nan => rfl
  | infinite s => cases s <;> rfl
  | finite s m q h =>
    rw [Video.clampedLevel, roundedQuality, Number.toNatUpTo_round 100 rfl, Nat.min_comm]

theorem qualityLevel_eq (default : Nat) (ps : Params) :
    Video.qualityLevel 100 default ps = askedQuality default ps := by
  rw [Video.qualityLevel, askedQuality, Video.qualityNumber?]
  cases (ps.number? "quality").or (ps.number? "q") with
  | none => rfl
  | some x => exact clampedLevel_eq x

/-- **All formats that a picture is written in begin files of their own.** -/
theorem formatOf_mem_fileFormats (f : ImageFormat) (tag : String) (p : Option Picture) :
    formatOf f tag p ∈ ImageFormat.fileFormats := by
  have hwritten : ∀ g ∈ writtenFormats, g ∈ ImageFormat.fileFormats := by decide
  unfold formatOf
  split
  · decide
  · split
    · decide
    · split
      · rename_i hf
        rcases hf with rfl | ⟨hf, -⟩
        · decide
        · exact hwritten f hf
      · decide

theorem askedQuality_bounds (default : Nat) (ps : Params) :
    1 ≤ askedQuality default ps ∧ askedQuality default ps ≤ 100 := by
  unfold askedQuality roundedQuality
  split
  · split
    · decide
    · split <;> decide
    · omega
  · omega

theorem qualityOf_bounds (default : Nat) (tag : String) (ps : Params) :
    1 ≤ qualityOf default tag ps ∧ qualityOf default tag ps ≤ 100 := by
  unfold qualityOf
  split
  · exact askedQuality_bounds default ps
  · decide

/-! ## (4) Tasks -/

/-- **What a picture is written as**: in the format and, for a JPEG, with the quality that its
operation asks for. -/
structure IsWritten (config : Config.Pipeline) (tag : String) (ps : Params) (f : ImageFormat)
    (e : Encoded) : Prop where
  format : e.format = formatOf f tag (some e.picture)
  quality : e.format = .jpeg → e.quality = some (qualityOf config.defaultImageQuality tag ps)

namespace Task

/-- **A task that writes a picture** as its operation asks for, by the format that its input begins
like. -/
def Rewrites (config : Config.Pipeline) (tag : String) (ps : Params) (t : Task) : Prop :=
  ∀ b next, t.apply b = .ok next → ∃ f e,
    (∀ g, ImageFormat.recognise b.toBytes = some g → g = f) ∧ next = .encoded e ∧
      IsWritten config tag ps f e

end Task

section Tasks

variable {config : Config.Pipeline} {tag op : String} {ps : Params} {t : Task}

/-- What writing back makes of a picture. -/
theorem isWritten_of_encode (htag : tag ∉ qualityTags ∧ tag ≠ removalTag) {p : Picture}
    {f : ImageFormat} {next : Buffer} (h : Buffer.encode op p f = .ok next) :
    ∃ e, next = .encoded e ∧ IsWritten config tag ps f e := by
  have hformat : ∀ q, formatOf f tag q
      = if f = .jpeg ∨ f ∈ writtenFormats ∧ q.any f.accepts then f else .png := by
    intro q
    rw [formatOf, if_neg htag.1, if_neg htag.2]
  have hquality : qualityOf config.defaultImageQuality tag ps = 90 := if_neg htag.1
  unfold Buffer.encode at h
  split at h
  · rename_i hjpeg
    unfold Buffer.encodeJpeg at h
    split at h
    · cases h
      refine ⟨_, rfl, ?_, fun _ => ?_⟩
      · rw [hformat, if_pos (.inl hjpeg), hjpeg]
      · rw [hquality]
        rfl
    · cases h
  · rename_i hjpeg
    split at h
    · rename_i hback
      cases h
      refine ⟨_, rfl, ?_, fun he => absurd he hjpeg⟩
      rw [hformat, if_pos (.inr ⟨writesBack_iff.1 hback.1, by simpa using hback.2⟩)]
    · rename_i hback
      cases h
      refine ⟨_, rfl, ?_, nofun⟩
      have hpng : ¬(f = .jpeg ∨ f ∈ writtenFormats ∧ (some p).any f.accepts) := by
        rintro (hf | ⟨hf, haccepts⟩)
        · exact hjpeg hf
        · exact hback ⟨writesBack_iff.2 hf, by simpa using haccepts⟩
      rw [hformat, if_neg hpng]

/-- **A change of pictures is written back.** -/
theorem rewrites_transform (htag : tag ∉ qualityTags ∧ tag ≠ removalTag)
    {change : Picture → Except Error Picture} :
    (transform op change).Rewrites config tag ps := by
  intro b next hnext
  obtain ⟨d, p, hd, -, hencode⟩ := Task.apply_transform_eq_ok_iff.1 hnext
  obtain ⟨e, he, hwritten⟩ := isWritten_of_encode htag hencode
  exact ⟨d.format, e, fun _ => Buffer.eq_format_of_decode hd, he, hwritten⟩

theorem rewrites_quality (htag : tag ∈ qualityTags) :
    (Task.work (jpegWork (Video.qualityLevel 100 config.defaultImageQuality ps))).Rewrites
      config tag ps := by
  intro b next hnext
  obtain ⟨d, hd, hencode⟩ := bind_eq_ok_iff.1 hnext
  obtain ⟨hone, hmost⟩ := askedQuality_bounds config.defaultImageQuality ps
  unfold Buffer.encodeJpeg at hencode
  split at hencode
  · cases hencode
    refine ⟨d.format, _, fun _ => Buffer.eq_format_of_decode hd, rfl, ?_, fun _ => ?_⟩
    · rw [formatOf, if_pos htag]
    · rw [qualityOf, if_pos htag, qualityLevel_eq, Nat.min_eq_left hmost, Nat.max_eq_right hone]
  · cases hencode

theorem rewrites_removeBackground (low high : Number) :
    (Task.work (maskWork low high)).Rewrites config removalTag ps := by
  intro b next hnext
  obtain ⟨d, mask, hd, rfl⟩ := exists_mask_of_maskWork hnext
  exact ⟨d.format, _, fun _ => Buffer.eq_format_of_decode hd, rfl, rfl, nofun⟩

theorem isRewriting_of_ne (h : tag ≠ "ar") (ps : Params) : IsRewriting tag ps := fun har => h har.1

/-- A box that is made of an aspect ratio has a side that is given. -/
theorem isRewriting_of_aspectDimensions {ratio : Number} {w h : Option Nat} {size : Nat × Nat}
    (hw : ps.dimension tag "w" = .ok w) (hh : ps.dimension tag "h" = .ok h)
    (hsize : aspectDimensions w h ratio = some size) : IsRewriting tag ps := by
  rintro ⟨-, hnow, hnoh⟩
  rw [← Params.isSome_of_dimension hw, Option.isSome_eq_false_iff, Option.isNone_iff_eq_none] at hnow
  rw [← Params.isSome_of_dimension hh, Option.isSome_eq_false_iff, Option.isNone_iff_eq_none] at hnoh
  rw [hnow, hnoh] at hsize
  cases hsize

/-- **Every task writes a picture or keeps its input**, as its tag and its parameters say. -/
theorem IsTaskOf.rewrites_or_keeps (h : IsTaskOf config tag ps t) :
    IsRewriting tag ps ∧ t.Rewrites config tag ps ∨
      ¬IsRewriting tag ps ∧ ∀ b next, t.apply b = .ok next → next = b := by
  -- the tags of changes of pictures are neither those of quality nor that of background removal
  have hfill : ∀ tag ∈ fillTags ++ fitTags,
      (tag ∉ qualityTags ∧ tag ≠ removalTag) ∧ tag ≠ "ar" := by decide
  cases h with
  | fill htag =>
    obtain ⟨hother, har⟩ := hfill tag (List.mem_append_left _ htag)
    exact .inl ⟨isRewriting_of_ne har ps, rewrites_transform hother⟩
  | crop x y htag =>
    subst htag
    exact .inl ⟨isRewriting_of_ne (by decide) ps, rewrites_transform (by decide)⟩
  | pad colour htag =>
    subst htag
    exact .inl ⟨isRewriting_of_ne (by decide) ps, rewrites_transform (by decide)⟩
  | fit htag =>
    obtain ⟨hother, har⟩ := hfill tag (List.mem_append_right _ htag)
    exact .inl ⟨isRewriting_of_ne har ps, rewrites_transform hother⟩
  | flatten colour htag =>
    subst htag
    exact .inl ⟨isRewriting_of_ne (by decide) ps, rewrites_transform (by decide)⟩
  | reshape htag hratio hw hh hsize _ =>
    subst htag
    exact .inl ⟨isRewriting_of_aspectDimensions hw hh hsize, rewrites_transform (by decide)⟩
  | keep htag _ hw hh =>
    refine .inr ⟨fun hrewriting => hrewriting ⟨htag, ?_, ?_⟩, fun b next hnext => ?_⟩
    · rw [← Params.isSome_of_dimension hw, Option.isSome_none]
    · rw [← Params.isSome_of_dimension hh, Option.isSome_none]
    · cases hnext
      rfl
  | quality htag =>
    have har : ∀ tag ∈ qualityTags, tag ≠ "ar" := by decide
    exact .inl ⟨isRewriting_of_ne (har tag htag) ps, rewrites_quality htag⟩
  | removeBackground htag =>
    subst htag
    exact .inl ⟨isRewriting_of_ne (by decide) ps, rewrites_removeBackground _ _⟩

end Tasks

/-! ## (5) Runs -/

section Runs

variable {config : Config.Pipeline} {source : Buffer} {chain : Chain} {output : Buffer}

/-- **What the calls that write a picture say of the file after them**: it is the source if there are
none, and else a picture in the format that follows from all of them, with the quality that the last
one asks for. -/
structure Follows (config : Config.Pipeline) (source : Buffer) (calls : List Call)
    (b : Buffer) : Prop where
  unchanged : calls = [] → b = source
  format : ∀ f, ImageFormat.recognise source.toBytes = some f →
    ImageFormat.recognise b.toBytes = some (calls.foldl formatAfter f)
  quality : ∀ call ∈ calls.getLast?, ImageFormat.recognise b.toBytes = some .jpeg →
    Jpeg.quality? b.toBytes = some (qualityAfter config call)

/-- What is written is a file in its format. -/
theorem IsWritten.recognise {tag : String} {ps : Params} {f : ImageFormat} {e : Encoded}
    (h : IsWritten config tag ps f e) : ImageFormat.recognise e.bytes = some e.format :=
  e.recognise_bytes (h.format ▸ formatOf_mem_fileFormats f tag (some e.picture))

/-- The quality of a JPEG that is written can be read off its file. -/
theorem IsWritten.quality? {tag : String} {ps : Params} {f : ImageFormat} {e : Encoded}
    (h : IsWritten config tag ps f e) (hjpeg : ImageFormat.recognise e.bytes = some .jpeg) :
    Jpeg.quality? e.bytes = some (qualityOf config.defaultImageQuality tag ps) := by
  have hformat : e.format = .jpeg := Option.some.inj (h.recognise.symm.trans hjpeg)
  obtain ⟨hone, hmost⟩ := qualityOf_bounds config.defaultImageQuality tag ps
  have hbytes : e.bytes
      = Jpeg.encode e.picture (qualityOf config.defaultImageQuality tag ps) := by
    rw [Encoded.bytes, hformat, h.quality hformat]
    rfl
  rw [hbytes]
  exact Jpeg.quality?_encode e.picture hone hmost

/-- A call that writes a picture. -/
theorem follows_concat {calls : List Call} {b next : Buffer}
    {found : Resolved (ImageChain.Operation Buffer)} (h : Follows config source calls b)
    (hstep : ImageChain.step found b = .ok next) {t : Task}
    (hrewrites : t.Rewrites config found.tag found.params) (ht : t.apply b = .ok next) :
    Follows config source (calls ++ [(found, b)]) next := by
  obtain ⟨f, e, hf, rfl, hwritten⟩ := hrewrites b next ht
  have hmade : madeBy? (found, b) = some e.picture := by
    rw [madeBy?, hstep]
    rfl
  refine ⟨fun hnil => absurd hnil (List.concat_ne_nil _ _), fun f' hf' => ?_,
    fun call hcall hjpeg => ?_⟩
  · rw [List.foldl_append, List.foldl_cons, List.foldl_nil, hf _ (h.format f' hf'), formatAfter, hmade,
      ← hwritten.format]
    exact hwritten.recognise
  · rw [List.getLast?_concat, Option.mem_some] at hcall
    subst hcall
    exact hwritten.quality? hjpeg

/-- **A run follows the calls that write a picture.** -/
theorem follows_of_run (h : run config source chain = .ok output) :
    Follows config source (rewritings config source chain) output := by
  refine Registry.fold_calls_induction
    (fun calls b => Follows config source
      (calls.filter fun call => IsRewriting call.1.tag call.1.params) b)
    (fun s _ found hfound calls b next hfollows hstep => ?_)
    ⟨fun _ => rfl, fun _ hf => hf, nofun⟩ (ImageChain.run_eq_ok_iff.1 h)
  obtain ⟨t, htask, ht⟩ := exists_isTaskOf_of_step hfound hstep
  rw [List.filter_append]
  rcases htask.rewrites_or_keeps with ⟨hrewriting, hrewrites⟩ | ⟨hkeeping, hkeeps⟩
  · rw [List.filter_cons_of_pos (by simpa using hrewriting), List.filter_nil]
    exact follows_concat hfollows hstep hrewrites ht
  · rw [List.filter_cons_of_neg (by simpa using hkeeping), List.filter_nil, List.append_nil,
      hkeeps b next ht]
    exact hfollows

/-- **Format and quality of an output.** For every chain of image operations that goes well over a
file in any format, the output begins like the format that follows from the calls that write a
picture: JPEG after quality, PNG after background removal, and after all others the format before,
where that is JPEG or a format that is written and holds the picture, or else PNG. In a JPEG stands the
quality that the last of these calls asks for, or 90. Where no call writes a picture the output is the
source. -/
theorem format_of_run (config : Config.Pipeline) (source : Buffer) (chain : Chain) (output : Buffer)
    (h : run config source chain = .ok output) :
    (∀ f, ImageFormat.recognise source.toBytes = some f →
      ImageFormat.recognise output.toBytes
        = some ((rewritings config source chain).foldl formatAfter f)) ∧
    (∀ call ∈ (rewritings config source chain).getLast?,
      ImageFormat.recognise output.toBytes = some .jpeg →
        Jpeg.quality? output.toBytes = some (qualityAfter config call)) ∧
    (rewritings config source chain = [] → output = source) := by
  obtain ⟨hunchanged, hformat, hquality⟩ := follows_of_run h
  exact ⟨hformat, hquality, hunchanged⟩

/-- Sides of 300 by 10 pixels. -/
def longSides : Params := .ofList [("h", .number (.ofNat 10)), ("w", .number (.ofNat 300))]

/-- A request for a quality beyond all bounds. -/
def boundless : Params := .ofList [("quality", .number (.infinite false))]

/-- A quality beyond all bounds is held at 100, a JPEG that is written once more has the usual
quality, an icon that would be too wide becomes a PNG, and so does a farbfeld file. -/
theorem format_of_run_sample :
    (∃ output, run {} (Buffer.encodePng stripe) [⟨"b_auto", .empty⟩, ⟨"q", boundless⟩] = .ok output ∧
      ImageFormat.recognise output.toBytes = some .jpeg ∧
      Jpeg.quality? output.toBytes = some 100) ∧
    (∃ output, run {} (Buffer.encodePng stripe) [⟨"q", boundless⟩, ⟨"b_auto", .empty⟩] = .ok output ∧
      ImageFormat.recognise output.toBytes = some .jpeg ∧
      Jpeg.quality? output.toBytes = some 90) ∧
    (∃ output, run {} (.encoded ⟨.ico, stripe, none⟩) [⟨"c_pad", longSides⟩] = .ok output ∧
      ImageFormat.recognise output.toBytes = some .png) ∧
    ∃ output, run {} (.bytes (Farbfeld.encode stripe)) [⟨"c_pad", longSides⟩] = .ok output ∧
      ImageFormat.recognise output.toBytes = some .png := by
  have hpng := Encoded.recognise_bytes ⟨.png, stripe, none⟩ (by decide)
  have hicon := Encoded.recognise_bytes ⟨.ico, stripe, none⟩ (by decide)
  have hfarbfeld := Encoded.recognise_bytes ⟨.farbfeld, stripe, none⟩ (by decide)
  refine ⟨?_, ?_, ?_, ?_⟩
  · have hrun : run {} (Buffer.encodePng stripe) [⟨"b_auto", .empty⟩, ⟨"q", boundless⟩]
        = .ok (.encoded ⟨.jpeg, (stripe.flatten .white).toRgb8, some 100⟩) := rfl
    have hlast : (rewritings {} (Buffer.encodePng stripe)
          [⟨"b_auto", .empty⟩, ⟨"q", boundless⟩]).getLast?
        = some (⟨"q", attempt false (quality 80), boundless⟩,
          Buffer.encodePng (stripe.flatten .white)) := rfl
    obtain ⟨hformat, hquality, -⟩ := format_of_run _ _ _ _ hrun
    exact ⟨_, hrun, hformat .png hpng, hquality _ hlast (hformat .png hpng)⟩
  · have hrun : run {} (Buffer.encodePng stripe) [⟨"q", boundless⟩, ⟨"b_auto", .empty⟩]
        = .ok (.encoded
          ⟨.jpeg, ((Jpeg.restored stripe.toRgb8 100).flatten .white).toRgb8, some 90⟩) := rfl
    have hlast : (rewritings {} (Buffer.encodePng stripe)
          [⟨"q", boundless⟩, ⟨"b_auto", .empty⟩]).getLast?
        = some (⟨"b_auto", attempt false flatten, .empty⟩,
          .encoded ⟨.jpeg, stripe.toRgb8, some 100⟩) := rfl
    obtain ⟨hformat, hquality, -⟩ := format_of_run _ _ _ _ hrun
    exact ⟨_, hrun, hformat .png hpng, hquality _ hlast (hformat .png hpng)⟩
  · have hrun : run {} (.encoded ⟨.ico, stripe, none⟩) [⟨"c_pad", longSides⟩]
        = .ok (Buffer.encodePng (stripe.pad 300 10 .black)) := rfl
    exact ⟨_, hrun, (format_of_run _ _ _ _ hrun).1 .ico hicon⟩
  · have hok : (run {} (.bytes (Farbfeld.encode stripe)) [⟨"c_pad", longSides⟩]).isOk = true := by
      decide +kernel
    have hlast : (rewritings {} (.bytes (Farbfeld.encode stripe))
        [⟨"c_pad", longSides⟩]).foldl formatAfter .farbfeld = .png := by decide +kernel
    cases hrun : run {} (.bytes (Farbfeld.encode stripe)) [⟨"c_pad", longSides⟩] with
    | error e =>
      rw [hrun] at hok
      cases hok
    | ok output =>
      have hformat := (format_of_run _ _ _ _ hrun).1 .farbfeld hfarbfeld
      rw [hlast] at hformat
      exact ⟨output, rfl, hformat⟩

end Runs

end Image

end MediaTransform
