import MediaTransform.Proofs.Image.Budget
import MediaTransform.Proofs.Image.Shape

/-! # Geometry does not depend on pixels

The size of an output follows from the size of the source and from what a chain asks for, and two
sources of one shape come out of a chain in one shape or with one error.

* **`roundedSide?`** — the side that parameters ask for, as an exact rounding.
* **`Image.sizeAfter?`** — the size that an operation leaves; `IsTaskOf.size?_of_apply` has one case
  for each kind of task.
* **`Image.sizeThrough?`** — the size that a chain leaves; `size?_of_run`.
* **`Image.geometry_of_run`** — both runs, and the size that they share. -/

namespace MediaTransform

/-! ## (1) Sides -/

/-- **The side under a key**: the number there rounded, a half going up. -/
def roundedSide? (ps : Params) (key : String) : Option Nat :=
  (ps.number? key).map fun x => ⌊x.value + 1 / 2⌋₊

section Sides

variable {ps : Params} {op key : String}

/-- **A side that is read is its number, rounded.** The rounded number is held to 32 bits without
effect, as what is larger is not let through. -/
theorem roundedSide?_of_dimension {side : Option Nat} (h : ps.dimension op key = .ok side) :
    roundedSide? ps key = side := by
  cases side with
  | none =>
    have hcontains : ps.contains key = false := by
      rw [← Params.isSome_of_dimension h, Option.isSome_none]
    have habsent : ps.get? key = none :=
      Option.not_isSome_iff_eq_none.1 (Bool.eq_false_iff.1 hcontains)
    rw [roundedSide?, Params.number?, habsent]
    rfl
  | some n =>
    obtain ⟨hpixels, hside⟩ := Params.dimension_eq_ok_some_iff.1 h
    obtain ⟨x, hx, hround⟩ := (Params.pixels?_eq_some_iff op).1 hpixels
    rw [roundedSide?, Params.number?_of_requireNumber hx, Option.map_some,
      floor_eq_of_roundAway hround hside.1]

end Sides

/-! ## (2) Tasks -/

namespace Image

/-- The tags whose operations make pictures of just the sides that are asked for. -/
def exactTags : List String := ["c_crop", "c_pad"] ++ fillTags

/-- **The size after an operation** on a picture of a size; nothing where a side is needed and not
given. -/
def sizeAfter? (tag : String) (ps : Params) (size : Nat × Nat) : Option (Nat × Nat) :=
  let w := roundedSide? ps "w"
  let h := roundedSide? ps "h"
  if tag ∈ exactTags then w.bind fun w => h.map fun h => (w, h)
  else if tag = "ar" then
    (ps.number? "ar").map fun ratio => (aspectDimensions w h ratio).getD size
  else if tag ∈ fitTags then
    some (fitDimensions size.1 size.2 (w.getD maxSide) (h.getD maxSide))
  else some size

section Tasks

variable {config : Config.Pipeline} {tag op : String} {ps : Params} {t : Task} {b next : Buffer}
  {size : Nat × Nat}

theorem sizeAfter?_exact (htag : tag ∈ exactTags) {w h : Nat}
    (hw : ps.dimension tag "w" = .ok (some w)) (hh : ps.dimension tag "h" = .ok (some h)) :
    sizeAfter? tag ps size = some (w, h) := by
  rw [sizeAfter?, if_pos htag, roundedSide?_of_dimension hw, roundedSide?_of_dimension hh]
  rfl

theorem sizeAfter?_fit (htag : tag ∈ fitTags) {w h : Option Nat}
    (hw : ps.dimension tag "w" = .ok w) (hh : ps.dimension tag "h" = .ok h) :
    sizeAfter? tag ps size
      = some (fitDimensions size.1 size.2 (w.getD maxSide) (h.getD maxSide)) := by
  have hother : ∀ tag ∈ fitTags, tag ∉ exactTags ∧ tag ≠ "ar" := by decide
  obtain ⟨hexact, har⟩ := hother tag htag
  rw [sizeAfter?, if_neg hexact, if_neg har, if_pos htag, roundedSide?_of_dimension hw,
    roundedSide?_of_dimension hh]

theorem sizeAfter?_ar {w h : Option Nat} {ratio : Number}
    (hratio : ps.requireNumber "ar" "ar" = .ok ratio) (hw : ps.dimension "ar" "w" = .ok w)
    (hh : ps.dimension "ar" "h" = .ok h) :
    sizeAfter? "ar" ps size = some ((aspectDimensions w h ratio).getD size) := by
  rw [sizeAfter?, if_neg (by decide), if_pos rfl, roundedSide?_of_dimension hw,
    roundedSide?_of_dimension hh, Params.number?_of_requireNumber hratio]
  rfl

theorem sizeAfter?_other (htag : tag ∉ exactTags ∧ tag ≠ "ar" ∧ tag ∉ fitTags) :
    sizeAfter? tag ps size = some size := by
  rw [sizeAfter?, if_neg htag.1, if_neg htag.2.1, if_neg htag.2.2]

/-- **The sides of a changed picture are those of the output.** -/
theorem size?_of_transform {change : Picture → Except Error Picture}
    (hnext : (transform op change).apply b = .ok next) (hsize : b.size? = some size) :
    ∃ p q, (p.width, p.height) = size ∧ change p = .ok q ∧
      next.size? = some (q.width, q.height) := by
  obtain ⟨d, q, hd, hchange, hencode⟩ := Task.apply_transform_eq_ok_iff.1 hnext
  rw [Buffer.size?_of_decode hd, Option.some.injEq] at hsize
  exact ⟨d.picture, q, hsize, hchange, Buffer.size?_of_encode hencode⟩

/-- A change to given sides leaves these. -/
theorem size?_of_exact {change : Picture → Picture} {w h : Nat} (hwidth : ∀ p, (change p).width = w)
    (hheight : ∀ p, (change p).height = h)
    (hnext : (transform op fun p => .ok (change p)).apply b = .ok next) :
    next.size? = some (w, h) := by
  obtain ⟨d, q, -, hchange, hencode⟩ := Task.apply_transform_eq_ok_iff.1 hnext
  cases hchange
  rw [Buffer.size?_of_encode hencode, hwidth, hheight]

/-- **The size that a task leaves.** -/
theorem IsTaskOf.size?_of_apply (h : IsTaskOf config tag ps t) (hnext : t.apply b = .ok next)
    (hsize : b.size? = some size) :
    ∃ after, sizeAfter? tag ps size = some after ∧ next.size? = some after := by
  cases h with
  | fill htag hw hh =>
    refine ⟨_, sizeAfter?_exact (List.mem_append_right _ htag) hw hh, ?_⟩
    exact size?_of_exact (fun p => p.width_cover _ _) (fun p => p.height_cover _ _) hnext
  | crop x y htag hw hh =>
    obtain ⟨p, q, -, hchange, hq⟩ := size?_of_transform hnext hsize
    subst htag
    refine ⟨_, sizeAfter?_exact (by decide) hw hh, ?_⟩
    unfold cropChange at hchange
    split at hchange
    · cases hchange
      rw [hq, Picture.width_crop, Picture.height_crop]
    · cases hchange
  | pad colour htag hw hh =>
    subst htag
    refine ⟨_, sizeAfter?_exact (by decide) hw hh, ?_⟩
    exact size?_of_exact (fun p => p.width_pad _ _ _) (fun p => p.height_pad _ _ _) hnext
  | fit htag hw hh =>
    obtain ⟨p, q, rfl, hchange, hq⟩ := size?_of_transform hnext hsize
    obtain ⟨-, rfl⟩ := fitWithin_eq_ok_iff.1 hchange
    refine ⟨_, sizeAfter?_fit htag hw hh, ?_⟩
    -- a missing side is the largest one, so the box has sides in any case
    have hw := Params.isSide_getD_dimension hw
    have hh := Params.isSide_getD_dimension hh
    rw [hq, p.width_fitInside hw hh, p.height_fitInside hw hh]
  | flatten colour htag =>
    obtain ⟨p, q, rfl, hchange, hq⟩ := size?_of_transform hnext hsize
    subst htag
    cases hchange
    refine ⟨_, sizeAfter?_other (by decide), ?_⟩
    rw [hq, Picture.width_flatten, Picture.height_flatten]
  | reshape htag hratio hw hh hbox _ =>
    subst htag
    refine ⟨_, sizeAfter?_ar hratio hw hh, ?_⟩
    rw [hbox]
    exact size?_of_exact (fun p => p.width_cover _ _) (fun p => p.height_cover _ _) hnext
  | keep htag hratio hw hh =>
    subst htag
    cases hnext
    exact ⟨_, sizeAfter?_ar hratio hw hh, hsize⟩
  | quality htag =>
    have hother : ∀ tag ∈ qualityTags, tag ∉ exactTags ∧ tag ≠ "ar" ∧ tag ∉ fitTags := by decide
    obtain ⟨d, hd, hencode⟩ := bind_eq_ok_iff.1 hnext
    refine ⟨_, sizeAfter?_other (hother tag htag), ?_⟩
    rw [← hsize, Buffer.size?_of_decode hd]
    exact Buffer.size?_of_encodeJpeg hencode
  | removeBackground htag =>
    obtain ⟨d, mask, hd, rfl⟩ := exists_mask_of_maskWork hnext
    subst htag
    refine ⟨_, sizeAfter?_other (by decide), ?_⟩
    rw [← hsize, Buffer.size?_of_decode hd, ← Picture.width_toRgba8, ← Picture.height_toRgba8]
    rfl

end Tasks

/-! ## (3) Runs -/

section Runs

variable {config : Config.Pipeline} {chain : Chain} {source output : Buffer} {size : Nat × Nat}

/-- **The size that a chain leaves**: that of its source, through all specs that have a handler. -/
def sizeThrough? (config : Config.Pipeline) (chain : Chain) (size : Nat × Nat) :
    Option (Nat × Nat) :=
  (chain.filterMap (registry config).resolve).foldlM
    (fun size found => sizeAfter? found.tag found.params size) size

/-- **The size of an output** follows from the size of the source and from the chain. -/
theorem size?_of_run (h : run config source chain = .ok output) (hsize : source.size? = some size) :
    ∃ last, sizeThrough? config chain size = some last ∧ output.size? = some last := by
  have hfold := ImageChain.run_eq_ok_iff.1 h
  rw [sizeThrough?, ← Registry.map_fst_calls hfold]
  refine Registry.fold_calls_induction
    (fun calls b => ∃ last, (calls.map (·.1)).foldlM
        (fun size found => sizeAfter? found.tag found.params size) size = some last ∧
      b.size? = some last)
    (fun s _ found hfound calls b next hcalls hstep => ?_) ⟨size, rfl, hsize⟩ hfold
  obtain ⟨last, hlast, hb⟩ := hcalls
  obtain ⟨t, htask, ht⟩ := exists_isTaskOf_of_step hfound hstep
  obtain ⟨after, hafter, hnext⟩ := htask.size?_of_apply ht hb
  refine ⟨after, ?_, hnext⟩
  rw [List.map_append, List.foldlM_append, hlast]
  show (sizeAfter? found.tag found.params last >>= pure) = some after
  rw [hafter]
  rfl

/-- **The detector of a chain with positive thresholds** looks at no pixels to find whether there are
edges. -/
theorem chainEdgesUniform_of_positive
    (h : ∀ s ∈ chain, ∀ found ∈ (registry config).resolve s, found.tag = removalTag →
      ¬(threshold found.params "lowerThreshold" 50).toFloat32 ≤ 0) :
    ChainEdgesUniform config chain :=
  fun s hs found hfound htag => edgesUniform_of_positive (h s hs found hfound htag) _

/-- **Geometry does not depend on pixels.** For every chain of image operations, over two sources that
are decoded to pictures of one format, one colour type and one size: both runs go well or both fail
with the same error, wherever edges are found in alike pictures alike. The outputs have one format
and one size, the size of the sources through the specs of the chain: that of the rounded sides after
a window, a cover or a pad, that of the aspect ratio after reshaping to a given side, that of the box
after scaling and fitting, where a missing side is the largest one, and the size before after all
others. -/
theorem geometry_of_run (config : Config.Pipeline) (chain : Chain)
    (hedges : ChainEdgesUniform config chain) (source source' : Buffer) (op op' : String)
    (d d' : Buffer.Decoded) (hd : source.decode op = .ok d) (hd' : source'.decode op' = .ok d')
    (halike : d.Alike d') :
    Agrees (fun output output' => ∃ format size,
        sizeThrough? config chain (d.picture.width, d.picture.height) = some size ∧
        output.outline? = some (format, size) ∧ output'.outline? = some (format, size))
      (run config source chain) (run config source' chain) := by
  have hagrees := run_agrees hedges (Buffer.alike_of_decode hd hd' halike)
  refine hagrees.imp fun output output' hrun _ houtput => ?_
  obtain ⟨size, hthrough, hsize⟩ := size?_of_run hrun (Buffer.size?_of_decode hd)
  obtain ⟨⟨format, size'⟩, houtline, hsize'⟩ := Option.map_eq_some_iff.1 hsize
  cases hsize'
  exact ⟨format, size', hthrough, houtline, houtput.outline ▸ houtline⟩

/-- A window of 20 by 1 pixels whose background is removed, and which covers 20 by 20 pixels then. -/
def windowChain : Chain :=
  [⟨"c_crop", .ofList [("h", .number (.ofNat 1)), ("w", .number (.ofNat 20)),
      ("x", .number (.ofNat 3)), ("y", .number (.ofNat 0))]⟩,
    ⟨removalTag, .empty⟩, coverSpec]

/-- A row of 40 clear pixels. -/
def clearStripe : Picture := ⟨.rgba8, Grid.replicate 40 1 .clear⟩

/-- Two rows of 40 pixels, a coloured one and a clear one, both become squares of 20 pixels. -/
theorem geometry_of_run_sample :
    Agrees (fun output output' => ∃ format,
        output.outline? = some (format, 20, 20) ∧ output'.outline? = some (format, 20, 20))
      (run {} (Buffer.encodePng stripe) windowChain)
      (run {} (Buffer.encodePng clearStripe) windowChain) ∧
    ∃ output output', run {} (Buffer.encodePng stripe) windowChain = .ok output ∧
      run {} (Buffer.encodePng clearStripe) windowChain = .ok output' ∧
      output.outline? = some (.png, 20, 20) ∧ output'.outline? = some (.png, 20, 20) := by
  have hedges : ChainEdgesUniform {} windowChain := chainEdgesUniform_of_positive (by decide +kernel)
  have hagrees := geometry_of_run {} windowChain hedges (Buffer.encodePng stripe)
    (Buffer.encodePng clearStripe) "" "" ⟨stripe, .png⟩ ⟨clearStripe, .png⟩ rfl rfl
    ⟨rfl, rfl, rfl, rfl⟩
  have hlast : sizeThrough? {} windowChain (40, 1) = some (20, 20) := by decide +kernel
  have hboth : Agrees (fun output output' => ∃ format,
        output.outline? = some (format, 20, 20) ∧ output'.outline? = some (format, 20, 20))
      (run {} (Buffer.encodePng stripe) windowChain)
      (run {} (Buffer.encodePng clearStripe) windowChain) := by
    refine hagrees.imp fun output output' _ _ houtlines => ?_
    obtain ⟨format, size, hthrough, houtput, houtput'⟩ := houtlines
    cases hlast.symm.trans hthrough
    exact ⟨format, houtput, houtput'⟩
  have hclear : (run {} (Buffer.encodePng clearStripe) windowChain).toOption.bind (·.outline?)
      = some (.png, 20, 20) := by decide +kernel
  refine ⟨hboth, ?_⟩
  -- the run over clear pixels goes well, and so does the one that agrees with it
  generalize run {} (Buffer.encodePng stripe) windowChain = coloured at hboth ⊢
  generalize run {} (Buffer.encodePng clearStripe) windowChain = clear at hboth hclear ⊢
  cases hboth with
  | error e => cases hclear
  | ok houtlines =>
    obtain ⟨format, houtput, houtput'⟩ := houtlines
    cases houtput'.symm.trans hclear
    exact ⟨_, _, rfl, rfl, houtput, houtput'⟩

end Runs

end Image

end MediaTransform
