import MediaTransform.Proofs.Image.Filling
import MediaTransform.Proofs.Image.Tasks
import MediaTransform.Proofs.Image.Tracing

/-! # What background removal keeps

The foreground of a picture is what its outermost borders enclose, and these borders themselves.

* **`Mask.enclosedBy`** — the foreground within edges, filled with any tool for polygons;
  `exists_enclosedBy` says that there always is one, and that the borders belong to it.
* **`Mask.IsCutOut`** — a picture with its foreground kept and everything else cleared.
* **`Image.HasThresholds`** — parameters whose thresholds are let through.
* **`Image.removeBackground_keeps_borders`** — filling, and the pictures that background removal
  leaves. -/

namespace MediaTransform

/-! ## (1) Foregrounds -/

namespace Mask

/-- **The foreground within edges**, filled with a tool. -/
def enclosedBy (draw : Mask → List Point → Option Mask) (edges : Grid Bool) : Option Mask :=
  fillAllBy draw (Grid.replicate edges.width edges.height false) (outermost (Contour.find edges))

variable {draw : Mask → List Point → Option Mask} {mask : Mask} {edges : Grid Bool}

/-- **There is a foreground within any edges**, on their sides. It has every point of every outermost
border, and these are edge points. -/
theorem exists_enclosedBy (hdraw : DrawsOpen draw) (edges : Grid Bool) :
    ∃ mask, enclosedBy draw edges = some mask ∧ mask.sides = edges.sides ∧
      ∀ c ∈ outermost (Contour.find edges), ∀ p ∈ c.points,
        edges.IsSetAt p ∧ mask.IsSetAt p := by
  obtain ⟨mask, hmask, hgrows, hpoints⟩ := exists_fillAllBy hdraw (outermost (Contour.find edges))
    (Grid.replicate edges.width edges.height false)
  refine ⟨mask, hmask, hgrows.sides, fun c hc p hp => ?_⟩
  have hedge : edges.IsSetAt p := Contour.isSetAt_of_mem_find (List.mem_of_mem_filter hc) hp
  exact ⟨hedge, hpoints c hc p hp hedge.isInside⟩

/-- **The foreground of a picture** is the one within its edges. -/
theorem foreground_eq (g : Grid Nat) (low high : Number) :
    foreground g low high = (Edges.detect g low high).bind (enclosedBy drawPolygon?) := by
  unfold foreground
  cases hedges : Edges.detect g low high with
  | none => rfl
  | some edges =>
    obtain ⟨hwidth, hheight⟩ := Prod.mk.inj (Edges.sides_detect hedges)
    rw [Option.map_some, Option.bind_some, enclosedBy, fillAllBy_drawPolygon?, hwidth, hheight]

/-- A picture has a foreground where it has edges. -/
theorem isSome_foreground (g : Grid Nat) (low high : Number) :
    (foreground g low high).isSome = (Edges.detect g low high).isSome := by
  rw [foreground, Option.isSome_map]

/-- **A picture is cut out of another one** along a mask: it has the same sides, the pixels of the
foreground with colour and alpha in 8 bits, and transparent black everywhere else. -/
structure IsCutOut (source : Picture) (mask : Mask) (p : Picture) : Prop where
  colour : p.colour = .rgba8
  sides : p.grid.sides = source.grid.sides
  covers : mask.sides = source.grid.sides
  kept : ∀ x y, mask.at? x y = some true → p.grid.at? x y = source.toRgba8.grid.at? x y
  cleared : ∀ x y, mask.at? x y = some false → p.grid.at? x y = some Pixel.clear

/-- **Putting on a mask** cuts a picture out. -/
theorem isCutOut_apply {p : Picture} (hmask : mask.sides = p.grid.sides) :
    IsCutOut p mask ⟨.rgba8, mask.apply p.toRgba8.grid⟩ := by
  have hsides : p.toRgba8.grid.sides = p.grid.sides :=
    congrArg₂ Prod.mk p.width_toRgba8 p.height_toRgba8
  obtain ⟨hwidth, hheight⟩ := Prod.mk.inj (hmask.trans hsides.symm)
  -- a pixel is where its mask is
  have hat {x y : Nat} {b : Bool} (hb : mask.at? x y = some b) :
      (mask.apply p.toRgba8.grid).at? x y
        = some (if b then p.toRgba8.grid.get default x y else Pixel.clear) ∧
      p.toRgba8.grid.at? x y = some (p.toRgba8.grid.get default x y) := by
    obtain ⟨hx, hy⟩ := (mask.isSome_at?_iff x y).1 (Option.isSome_iff_exists.2 ⟨b, hb⟩)
    rw [hwidth] at hx
    rw [hheight] at hy
    refine ⟨?_, Grid.at?_eq_some_get _ _ hx hy⟩
    rw [apply, Grid.at?_ofFn, if_pos ⟨hx, hy⟩, Grid.get, hb, Option.getD_some]
  refine ⟨rfl, hsides, hmask, fun x y h => ?_, fun x y h => ?_⟩
  · rw [(hat h).1, (hat h).2, if_pos rfl]
  · rw [(hat h).1, if_neg Bool.false_ne_true]

end Mask

/-! ## (2) Background removal -/

namespace Image

/-- **Thresholds that are let through**: parameters or their defaults, in order and not negative. -/
structure HasThresholds (ps : Params) (low high : Number) : Prop where
  lower : threshold ps "lowerThreshold" 50 = low
  upper : threshold ps "upperThreshold" 150 = high
  nonneg : ¬low < .ofNat 0
  ordered : ¬high < low

variable {ps : Params} {low high : Number} {source out : Buffer} {d : Buffer.Decoded} {t : Task}

theorem removeBackground_eq_ok_iff :
    removeBackground ps = .ok t ↔
      ∃ low high, HasThresholds ps low high ∧ t = .work (maskWork low high) := by
  unfold removeBackground
  dsimp only
  split
  · rename_i hrefused
    refine ⟨nofun, ?_⟩
    rintro ⟨low, high, ⟨rfl, rfl, hnonneg, hordered⟩, -⟩
    exact absurd hrefused (not_or.2 ⟨hnonneg, hordered⟩)
  · rename_i hpassed
    obtain ⟨hnonneg, hordered⟩ := not_or.1 hpassed
    constructor
    · intro h
      cases h
      exact ⟨_, _, ⟨rfl, rfl, hnonneg, hordered⟩, rfl⟩
    · rintro ⟨low, high, ⟨rfl, rfl, -, -⟩, rfl⟩
      rfl

/-- **What background removal makes of a picture**: its thresholds are let through, and its
foreground is put on it. -/
theorem apply_removeBackground_eq_ok_iff (hd : source.decode removalTag = .ok d) :
    removeBackground.apply source ps = .ok out ↔
      ∃ low high mask, HasThresholds ps low high ∧
        Mask.foreground d.picture.luminance low high = some mask ∧
        out = Buffer.encodePng ⟨.rgba8, mask.apply d.picture.toRgba8.grid⟩ := by
  constructor
  · intro h
    obtain ⟨t, ht, h⟩ := bind_eq_ok_iff.1 h
    obtain ⟨low, high, hthresholds, rfl⟩ := removeBackground_eq_ok_iff.1 ht
    obtain ⟨d', mask, hd', hmask, rfl⟩ := maskWork_eq_ok_iff.1 h
    cases hd.symm.trans hd'
    exact ⟨low, high, mask, hthresholds, hmask, rfl⟩
  · rintro ⟨low, high, mask, hthresholds, hmask, rfl⟩
    exact bind_eq_ok_iff.2 ⟨_, removeBackground_eq_ok_iff.2 ⟨low, high, hthresholds, rfl⟩,
      maskWork_eq_ok_iff.2 ⟨d, mask, hd, hmask, rfl⟩⟩

/-- **Background removal goes well** where thresholds are let through and the detector has edges. -/
theorem exists_apply_removeBackground_iff (hd : source.decode removalTag = .ok d) :
    (∃ out, removeBackground.apply source ps = .ok out) ↔
      ∃ low high, HasThresholds ps low high ∧
        (Edges.detect d.picture.luminance low high).isSome := by
  constructor
  · rintro ⟨out, h⟩
    obtain ⟨low, high, mask, hthresholds, hmask, -⟩ :=
      (apply_removeBackground_eq_ok_iff hd).1 h
    refine ⟨low, high, hthresholds, ?_⟩
    rw [← Mask.isSome_foreground, hmask, Option.isSome_some]
  · rintro ⟨low, high, hthresholds, hedges⟩
    rw [← Mask.isSome_foreground] at hedges
    obtain ⟨mask, hmask⟩ := Option.isSome_iff_exists.1 hedges
    exact ⟨_, (apply_removeBackground_eq_ok_iff hd).2 ⟨low, high, mask, hthresholds, hmask, rfl⟩⟩

/-- **What is left** is cut out along the foreground within the edges. -/
theorem exists_isCutOut_of_apply (hd : source.decode removalTag = .ok d)
    (h : removeBackground.apply source ps = .ok out) :
    ∃ low high edges mask p, HasThresholds ps low high ∧
      Edges.detect d.picture.luminance low high = some edges ∧
      Mask.enclosedBy Mask.drawPolygon? edges = some mask ∧
      (∀ c ∈ Mask.outermost (Contour.find edges), ∀ q ∈ c.points, mask.IsSetAt q) ∧
      (∀ op, out.decode op = .ok ⟨p, .png⟩) ∧ Mask.IsCutOut d.picture mask p := by
  obtain ⟨low, high, mask, hthresholds, hmask, rfl⟩ := (apply_removeBackground_eq_ok_iff hd).1 h
  rw [Mask.foreground_eq] at hmask
  obtain ⟨edges, hedges, hmask⟩ := Option.bind_eq_some_iff.1 hmask
  obtain ⟨mask', hmask', hsides, hpoints⟩ :=
    Mask.exists_enclosedBy Mask.drawsOpen_drawPolygon? edges
  cases hmask.symm.trans hmask'
  exact ⟨low, high, edges, mask, _, hthresholds, hedges, hmask,
    fun c hc q hq => (hpoints c hc q hq).2, fun _ => rfl,
    Mask.isCutOut_apply (hsides.trans (Edges.sides_detect hedges))⟩

/-- **Borders are filled safely, so background removal keeps them.** A border of any points gives the
tool for polygons open polygons only. Whatever tool draws these, filling never fails on any mask, it
loses no foreground, and every point of the border that lies inside is foreground; the tool at hand,
which fails on closed polygons, is such a tool. The foreground within any edges has their sides and
every point of every outermost border. Of a picture that is decoded, background removal leaves
something where its thresholds are let through and the detector has edges, as it does for all
thresholds in order with a positive lower one; and what it leaves is a picture of the same sides that
has the pixels of the source exactly in the foreground, with its outermost borders, and is transparent
black everywhere else. -/
theorem removeBackground_keeps_borders :
    (∀ points, 3 ≤ (Mask.polygonOf points).length → Mask.IsOpen (Mask.polygonOf points)) ∧
    (∀ draw draw', (∀ mask polygon, Mask.IsOpen polygon → draw mask polygon = draw' mask polygon) →
      ∀ mask points, Mask.fillContourBy draw mask points = Mask.fillContourBy draw' mask points) ∧
    (∀ draw, Mask.DrawsOpen draw → ∀ mask points, ∃ mask',
      Mask.fillContourBy draw mask points = some mask' ∧ mask.GrowsTo mask' ∧
      ∀ p ∈ points, p.IsInside mask → mask'.IsSetAt p) ∧
    Mask.DrawsOpen Mask.drawPolygon? ∧
    (∀ mask points,
      Mask.fillContourBy Mask.drawPolygon? mask points = some (Mask.fillContour mask points)) ∧
    (∀ draw, Mask.DrawsOpen draw → ∀ edges, ∃ mask, Mask.enclosedBy draw edges = some mask ∧
      mask.sides = edges.sides ∧ ∀ c ∈ Mask.outermost (Contour.find edges), ∀ p ∈ c.points,
        edges.IsSetAt p ∧ mask.IsSetAt p) ∧
    ∀ (source : Buffer) d, source.decode removalTag = .ok d → ∀ ps,
      ((∃ out, removeBackground.apply source ps = .ok out) ↔
        ∃ low high, HasThresholds ps low high ∧
          (Edges.detect d.picture.luminance low high).isSome) ∧
      (∀ low high, HasThresholds ps low high → ¬low.toFloat32 ≤ 0 → low ≤ high →
        ∃ out, removeBackground.apply source ps = .ok out) ∧
      ∀ out, removeBackground.apply source ps = .ok out →
        ∃ low high edges mask p, HasThresholds ps low high ∧
          Edges.detect d.picture.luminance low high = some edges ∧
          Mask.enclosedBy Mask.drawPolygon? edges = some mask ∧
          (∀ c ∈ Mask.outermost (Contour.find edges), ∀ q ∈ c.points, mask.IsSetAt q) ∧
          (∀ op, out.decode op = .ok ⟨p, .png⟩) ∧ Mask.IsCutOut d.picture mask p := by
  refine ⟨fun points => Mask.isOpen_polygonOf, fun draw draw' => Mask.fillContourBy_congr,
    fun draw => Mask.exists_fillContourBy, Mask.drawsOpen_drawPolygon?,
    Mask.fillContourBy_drawPolygon?, fun draw => Mask.exists_enclosedBy,
    fun source d hd ps => ⟨exists_apply_removeBackground_iff hd,
      fun low high hthresholds hpositive hle => ?_, fun out => exists_isCutOut_of_apply hd⟩⟩
  refine (exists_apply_removeBackground_iff hd).2 ⟨low, high, hthresholds, ?_⟩
  rw [Edges.isSome_detect hpositive, decide_eq_true hle]

/-- A triangle that goes over a corner twice, and is closed twice. -/
def triangle : List Point := [⟨0, 0⟩, ⟨2, 0⟩, ⟨2, 0⟩, ⟨2, 2⟩, ⟨0, 0⟩, ⟨0, 0⟩]

/-- Edges around one point. -/
def ring : Grid Bool :=
  Grid.ofFn 5 5 fun x y => decide (1 ≤ x ∧ x ≤ 3 ∧ 1 ≤ y ∧ y ≤ 3 ∧ ¬(x = 2 ∧ y = 2))

/-- The tool at hand cannot draw the triangle as it is, and draws it all the same; the corner of a
ring is foreground; and something is left of a white sheet. -/
theorem removeBackground_keeps_borders_sample :
    (Mask.drawPolygon? ring triangle = none ∧ ∃ mask,
      Mask.fillContourBy Mask.drawPolygon? ring triangle = some mask ∧ mask.IsSetAt ⟨2, 2⟩) ∧
    (∃ mask, Mask.enclosedBy Mask.drawPolygon? ring = some mask ∧ mask.IsSetAt ⟨1, 1⟩) ∧
    ∃ out p, removeBackground.apply
        (Buffer.encodePng ⟨.rgb8, Grid.replicate 3 2 ⟨255, 255, 255, 255⟩⟩) .empty = .ok out ∧
      out.decode "" = .ok ⟨p, .png⟩ ∧ p.grid.sides = (3, 2) := by
  obtain ⟨-, -, hfill, hdraws, -, henclosed, hremoval⟩ := removeBackground_keeps_borders
  obtain ⟨filled, hfilled, -, hpoints⟩ := hfill _ hdraws ring triangle
  obtain ⟨mask, hmask, -, hborders⟩ := henclosed _ hdraws ring
  obtain ⟨c, hc, hcorner⟩ :
      ∃ c ∈ Mask.outermost (Contour.find ring), (⟨1, 1⟩ : Point) ∈ c.points := by decide +kernel
  obtain ⟨-, hexists, hleft⟩ := hremoval
    (Buffer.encodePng ⟨.rgb8, Grid.replicate 3 2 ⟨255, 255, 255, 255⟩⟩) _ rfl .empty
  obtain ⟨out, hout⟩ := hexists (.ofNat 50) (.ofNat 150)
    ⟨rfl, rfl, by decide +kernel, by decide +kernel⟩ (by decide +kernel) (by decide +kernel)
  obtain ⟨low, high, edges, mask', p, -, -, -, -, hdecode, hcut⟩ := hleft out hout
  have hinside : Point.IsInside ⟨2, 2⟩ ring := ⟨by decide, by decide, by decide, by decide⟩
  exact ⟨⟨rfl, filled, hfilled, hpoints _ (by decide) hinside⟩,
    ⟨mask, hmask, (hborders c hc _ hcorner).2⟩, out, p, hout, hdecode "", hcut.sides⟩

end Image

end MediaTransform
