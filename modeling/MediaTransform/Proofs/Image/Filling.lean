import Mathlib.Data.List.DropRight
import Mathlib.Data.List.Destutter
import MediaTransform.Image.Mask
import MediaTransform.Proofs.Image.Borders
import MediaTransform.Proofs.Image.Window

/-! # Filling borders

A border becomes a polygon for the tool that draws polygons, which cannot draw closed ones.

* **`Mask.IsOpen`** — polygons whose ends and whose neighbours differ; `isOpen_polygonOf` says that
  every border with enough points gives one.
* **`Mask.DrawsOpen`** — what filling relies on in that tool; `drawPolygon?` is one.
* **`Mask.fillContourBy`** — filling with any tool, and `fillContourBy_congr`: only open polygons are
  drawn.
* **`Mask.exists_fillContourBy`**, **`exists_fillAllBy`** — filling one border and many never fails,
  and loses neither what was foreground nor the points of a border. -/

namespace MediaTransform

/-- **A point inside** a grid. -/
def Point.IsInside {α : Type} (p : Point) (g : Grid α) : Prop :=
  0 ≤ p.x ∧ 0 ≤ p.y ∧ g.Inside p.x.toNat p.y.toNat

namespace Grid

variable {g g' : Grid Bool} {p : Point}

theorem IsSetAt.isInside (h : g.IsSetAt p) : p.IsInside g :=
  ⟨h.1, h.2.1, (g.isSome_at?_iff _ _).1 (Option.isSome_iff_exists.2 ⟨true, h.2.2⟩)⟩

theorem isInside_congr (h : g'.sides = g.sides) : p.IsInside g' ↔ p.IsInside g := by
  obtain ⟨hwidth, hheight⟩ := Prod.mk.inj h
  rw [Point.IsInside, Point.IsInside, Inside, Inside, hwidth, hheight]

end Grid

namespace Mask

/-! ## (1) Polygons -/

/-- **A polygon that is open**: it has an inside to speak of, its ends differ, and so do all
neighbours. -/
structure IsOpen (polygon : List Point) : Prop where
  length : 3 ≤ polygon.length
  ends : polygon.head? ≠ polygon.getLast?
  neighbours : polygon.IsChain (· ≠ ·)

variable {points polygon : List Point}

/-- Repeats are dropped just as the library drops them. -/
theorem dropRepeats_eq_destutter (points : List Point) :
    dropRepeats points = points.destutter (· ≠ ·) := by
  fun_induction dropRepeats points with
  | case1 => rfl
  | case2 p => rfl
  | case3 p rest ih => rw [ih, List.destutter_cons_cons, if_neg (not_not.2 rfl), List.destutter_cons']
  | case4 p q rest hne ih =>
    rw [ih, List.destutter_cons_cons, if_pos hne, List.destutter_cons']

/-- What is left of an open end: the first point, and the others up to the last one that is not equal
to it. -/
theorem openEnd_cons (p : Point) (rest : List Point) :
    openEnd (p :: rest) = p :: rest.rdropWhile (· = p) := rfl

/-- **The polygon of a border is open**, if it has three points. -/
theorem isOpen_polygonOf (h : 3 ≤ (polygonOf points).length) : IsOpen (polygonOf points) := by
  unfold polygonOf at h ⊢
  have hchain : (dropRepeats points).IsChain (· ≠ ·) :=
    dropRepeats_eq_destutter points ▸ List.isChain_destutter _ points
  cases hdropped : dropRepeats points with
  | nil =>
    rw [hdropped] at h
    exact absurd h (by decide)
  | cons p rest =>
    rw [hdropped] at h hchain
    rw [openEnd_cons] at h ⊢
    have hne : rest.rdropWhile (· = p) ≠ [] := by
      intro hnil
      rw [hnil] at h
      exact absurd h (by simp)
    refine ⟨h, ?_, ?_⟩
    · -- the last point is one where dropping stopped
      have hlast := List.rdropWhile_last_not (fun q => decide (q = p)) rest hne
      rw [List.getLast?_cons, List.getLast?_eq_some_getLast hne]
      simpa [eq_comm] using hlast
    · have hwhole : rest.rdropWhile (· = p) ++ rest.rtakeWhile (· = p) = rest :=
        List.rdropWhile_append_rtakeWhile
      rw [← hwhole, ← List.cons_append] at hchain
      exact hchain.left_of_append

/-! ## (2) Tools -/

/-- **A mask with more foreground** on the same sides. -/
structure GrowsTo (mask mask' : Mask) : Prop where
  sides : mask'.sides = mask.sides
  isSetAt : ∀ p, mask.IsSetAt p → mask'.IsSetAt p

/-- **A tool for polygons** may fail. Open polygons it draws, in the foreground and within the
mask. -/
def DrawsOpen (draw : Mask → List Point → Option Mask) : Prop :=
  ∀ mask polygon, IsOpen polygon → ∃ mask', draw mask polygon = some mask' ∧ mask.GrowsTo mask'

/-- **A border filled with a tool**: a polygon of three points is drawn, and the points are marked. -/
def fillContourBy (draw : Mask → List Point → Option Mask) (mask : Mask) (points : List Point) :
    Option Mask :=
  let polygon := polygonOf points
  (if 3 ≤ polygon.length then draw mask polygon else some mask).map (points.foldl mark ·)

/-- **Borders filled with a tool**, one after the other. -/
def fillAllBy (draw : Mask → List Point → Option Mask) (mask : Mask) (contours : List Contour) :
    Option Mask :=
  contours.foldlM (fun mask c => fillContourBy draw mask c.points) mask

/-- **The tool at hand** fails where a polygon is closed. -/
def drawPolygon? (mask : Mask) (polygon : List Point) : Option Mask :=
  if polygon ≠ [] ∧ polygon.head? = polygon.getLast? then none else some (fillPolygon mask polygon)

variable {mask mask' mask'' : Mask} {p q : Point} {draw draw' : Mask → List Point → Option Mask}

theorem GrowsTo.refl (mask : Mask) : mask.GrowsTo mask := ⟨rfl, fun _ h => h⟩

theorem GrowsTo.trans (h : mask.GrowsTo mask') (h' : mask'.GrowsTo mask'') :
    mask.GrowsTo mask'' :=
  ⟨h'.sides.trans h.sides, fun p hp => h'.isSetAt p (h.isSetAt p hp)⟩

theorem growsTo_fillPolygon (mask : Mask) (polygon : List Point) :
    mask.GrowsTo (fillPolygon mask polygon) := by
  refine ⟨rfl, fun p hp => ⟨hp.1, hp.2.1, ?_⟩⟩
  have hget : mask.get false p.x.toNat p.y.toNat = true := by rw [Grid.get, hp.2.2, Option.getD_some]
  have hinside : p.x.toNat < mask.width ∧ p.y.toNat < mask.height := hp.isInside.2.2
  unfold fillPolygon
  rw [Grid.at?_ofFn, if_pos hinside, hget, Bool.true_or]

theorem drawPolygon?_of_isOpen (h : IsOpen polygon) :
    drawPolygon? mask polygon = some (fillPolygon mask polygon) :=
  if_neg fun hclosed => h.ends hclosed.2

theorem drawsOpen_drawPolygon? : DrawsOpen drawPolygon? := fun mask polygon h =>
  ⟨_, drawPolygon?_of_isOpen h, growsTo_fillPolygon mask polygon⟩

/-- **Only open polygons are drawn**: what a tool does with others is no matter. -/
theorem fillContourBy_congr
    (h : ∀ mask polygon, IsOpen polygon → draw mask polygon = draw' mask polygon) (mask : Mask)
    (points : List Point) : fillContourBy draw mask points = fillContourBy draw' mask points := by
  unfold fillContourBy
  dsimp only
  split
  · rename_i hlength
    rw [h mask _ (isOpen_polygonOf hlength)]
  · rfl

/-- Filling is filling with the tool at hand. -/
theorem fillContourBy_drawPolygon? (mask : Mask) (points : List Point) :
    fillContourBy drawPolygon? mask points = some (fillContour mask points) := by
  unfold fillContourBy fillContour
  dsimp only
  split
  · rename_i hlength
    rw [drawPolygon?_of_isOpen (isOpen_polygonOf hlength), Option.map_some]
  · rfl

theorem fillAllBy_drawPolygon? (mask : Mask) (contours : List Contour) :
    fillAllBy drawPolygon? mask contours
      = some (contours.foldl (fun mask c => fillContour mask c.points) mask) := by
  unfold fillAllBy
  simp only [fillContourBy_drawPolygon?]
  exact List.foldlM_pure

/-! ## (3) Points -/

/-- A point inside is marked. -/
theorem isSetAt_mark (h : p.IsInside mask) : (mark mask p).IsSetAt p := by
  refine ⟨h.1, h.2.1, ?_⟩
  obtain ⟨b, hb⟩ := Option.isSome_iff_exists.1 ((mask.isSome_at?_iff _ _).2 h.2.2)
  rw [mark, if_pos ⟨h.1, h.2.1⟩, Grid.at?_set, if_pos ⟨rfl, rfl⟩, hb, Option.map_some]

theorem growsTo_mark (mask : Mask) (p : Point) : mask.GrowsTo (mark mask p) := by
  unfold mark
  split
  · refine ⟨rfl, fun q hq => ⟨hq.1, hq.2.1, ?_⟩⟩
    rw [Grid.at?_set]
    split
    · -- marked once more
      rename_i hsame
      rw [← hsame.1, ← hsame.2, hq.2.2, Option.map_some]
    · exact hq.2.2
  · exact .refl mask

theorem growsTo_marks (points : List Point) (mask : Mask) :
    mask.GrowsTo (points.foldl mark mask) := by
  induction points generalizing mask with
  | nil => exact .refl mask
  | cons p points ih => exact (growsTo_mark mask p).trans (ih _)

/-- **All points inside are marked.** -/
theorem isSetAt_marks (points : List Point) {mask : Mask} (hp : p ∈ points)
    (hinside : p.IsInside mask) : (points.foldl mark mask).IsSetAt p := by
  induction points generalizing mask with
  | nil => cases hp
  | cons q points ih =>
    rcases List.mem_cons.1 hp with rfl | hp
    -- a point that is marked stays so
    · exact (growsTo_marks points _).isSetAt p (isSetAt_mark hinside)
    · exact ih hp ((Grid.isInside_congr (growsTo_mark mask q).sides).2 hinside)

/-! ## (4) Borders -/

/-- **Filling a border never fails**, loses no foreground, and has all points of the border that lie
inside. -/
theorem exists_fillContourBy (hdraw : DrawsOpen draw) (mask : Mask) (points : List Point) :
    ∃ mask', fillContourBy draw mask points = some mask' ∧ mask.GrowsTo mask' ∧
      ∀ p ∈ points, p.IsInside mask → mask'.IsSetAt p := by
  -- what is drawn before the points are marked
  obtain ⟨drawn, hdrawn, hgrows⟩ : ∃ drawn,
      (if 3 ≤ (polygonOf points).length then draw mask (polygonOf points) else some mask)
        = some drawn ∧ mask.GrowsTo drawn := by
    split
    · rename_i hlength
      exact hdraw mask _ (isOpen_polygonOf hlength)
    · exact ⟨mask, rfl, .refl mask⟩
  refine ⟨points.foldl mark drawn, ?_, hgrows.trans (growsTo_marks points drawn), ?_⟩
  · unfold fillContourBy
    dsimp only
    rw [hdrawn, Option.map_some]
  · intro p hp hinside
    exact isSetAt_marks points hp ((Grid.isInside_congr hgrows.sides).2 hinside)

/-- **Filling borders never fails**, loses no foreground, and has all points of all borders that lie
inside. -/
theorem exists_fillAllBy (hdraw : DrawsOpen draw) (contours : List Contour) (mask : Mask) :
    ∃ mask', fillAllBy draw mask contours = some mask' ∧ mask.GrowsTo mask' ∧
      ∀ c ∈ contours, ∀ p ∈ c.points, p.IsInside mask → mask'.IsSetAt p := by
  induction contours generalizing mask with
  | nil => exact ⟨mask, rfl, .refl mask, fun c hc => absurd hc List.not_mem_nil⟩
  | cons c contours ih =>
    obtain ⟨next, hnext, hgrows, hpoints⟩ := exists_fillContourBy hdraw mask c.points
    -- the next borders keep what this one has
    obtain ⟨last, hlast, hgrows', hothers⟩ := ih next
    refine ⟨last, ?_, hgrows.trans hgrows', List.forall_mem_cons.2 ⟨?_, ?_⟩⟩
    · rw [fillAllBy, List.foldlM_cons, hnext]
      exact hlast
    · exact fun p hp hinside => hgrows'.isSetAt p (hpoints p hp hinside)
    · exact fun c' hc' p hp hinside =>
        hothers c' hc' p hp ((Grid.isInside_congr hgrows.sides).2 hinside)

end Mask

end MediaTransform
