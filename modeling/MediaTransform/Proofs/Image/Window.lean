import MediaTransform.Image.Picture
import MediaTransform.Proofs.Media.Params

/-! # Windows of pictures

* **`Window`** — a corner and two sides; `Window.IsAskedBy` says that parameters ask for it, and
  `Window.FitsIn` that it lies in a picture of a size.
* **`Window.of`** — the picture in a window, pixel by pixel (`at?_of`); a window of a window is a
  window (`of_of`). -/

namespace MediaTransform

/-! ## (1) Grids -/

namespace Grid

variable {α : Type} {w h x y : Nat}

/-- The sides of a grid. -/
def sides (g : Grid α) : Nat × Nat := (g.width, g.height)

@[simp] theorem sides_set (g : Grid α) (i j : Nat) (a : α) : (g.set i j a).sides = g.sides := rfl

/-- A grid is a matter of the positions inside only. -/
theorem ofFn_congr {f g : Nat → Nat → α} (h' : ∀ x < w, ∀ y < h, f x y = g x y) :
    ofFn w h f = ofFn w h g := by
  have hcells : (fun i : Fin (w * h) => f (i.val % w) (i.val / w))
      = fun i => g (i.val % w) (i.val / w) := by
    funext i
    have hpos : 0 < w := Nat.pos_of_mul_pos_right (Nat.zero_lt_of_lt i.isLt)
    exact h' _ (Nat.mod_lt _ hpos) _ (Nat.div_lt_of_lt_mul i.isLt)
  simp only [ofFn, hcells]

/-- One function after another one. -/
theorem map_map {β γ : Type} (f : β → γ) (f' : α → β) (g : Grid α) :
    (g.map f').map f = g.map (f ∘ f') := by
  have hcells : (g.map f').cells.map f = g.cells.map (f ∘ f') := by rw [cells_map, Array.map_map]
  simp only [map, ← hcells]

theorem get_ofFn (f : Nat → Nat → α) (default : α) (hx : x < w) (hy : y < h) :
    (ofFn w h f).get default x y = f x y := by
  rw [get, at?_ofFn, if_pos ⟨hx, hy⟩, Option.getD_some]

/-- A position inside has a value. -/
theorem at?_eq_some_get (g : Grid α) (default : α) (hx : x < g.width) (hy : y < g.height) :
    g.at? x y = some (g.get default x y) := by
  obtain ⟨a, ha⟩ := Option.isSome_iff_exists.1 ((g.isSome_at?_iff x y).2 ⟨hx, hy⟩)
  rw [get, ha, Option.getD_some]

end Grid

/-! ## (2) Windows -/

/-- **A window of a picture**: its corner and its sides. -/
structure Window where
  x : Nat
  y : Nat
  w : Nat
  h : Nat
  deriving DecidableEq

namespace Window

/-- **Parameters ask for a window** where their numbers of pixels are its corner and its sides. -/
structure IsAskedBy (v : Window) (ps : Params) : Prop where
  x : ps.pixels? "x" = some (v.x : ℤ)
  y : ps.pixels? "y" = some (v.y : ℤ)
  w : ps.pixels? "w" = some (v.w : ℤ)
  h : ps.pixels? "h" = some (v.h : ℤ)

/-- **A window fits in a size**: it has pixels, and all of them lie inside. -/
structure FitsIn (v : Window) (width height : Nat) : Prop where
  w : 1 ≤ v.w
  h : 1 ≤ v.h
  across : v.x + v.w ≤ width
  down : v.y + v.h ≤ height

/-- **The picture in a window.** -/
def of (v : Window) (p : Picture) : Picture := p.crop v.x v.y v.w v.h

/-- **A window inside another one**, by the corner of the other one. -/
def inside (inner outer : Window) : Window :=
  ⟨outer.x + inner.x, outer.y + inner.y, inner.w, inner.h⟩

variable {v v' inner outer : Window} {ps : Params} {p : Picture} {width height : Nat}

/-- Parameters ask for one window at most. -/
theorem IsAskedBy.unique (h : v.IsAskedBy ps) (h' : v'.IsAskedBy ps) : v = v' := by
  have heq {key : String} {m n : Nat} (hm : ps.pixels? key = some (m : ℤ))
      (hn : ps.pixels? key = some (n : ℤ)) : m = n :=
    Int.natCast_inj.1 (Option.some.inj (hm.symm.trans hn))
  cases v
  cases v'
  rw [mk.injEq]
  exact ⟨heq h.x h'.x, heq h.y h'.y, heq h.w h'.w, heq h.h h'.h⟩

/-- **The pixels of a window** are those of the picture, from its corner on. -/
theorem at?_of (h : v.FitsIn p.width p.height) {i j : Nat} (hi : i < v.w) (hj : j < v.h) :
    (v.of p).grid.at? i j = p.grid.at? (v.x + i) (v.y + j) := by
  have hacross : v.x + i < p.width := by
    have := h.across
    omega
  have hdown : v.y + j < p.height := by
    have := h.down
    omega
  rw [of, Picture.crop, Grid.at?_ofFn, if_pos ⟨hi, hj⟩,
    p.grid.at?_eq_some_get default hacross hdown]

/-- No side of a window is longer than where it fits. -/
theorem FitsIn.sides_le (h : v.FitsIn width height) {limit : Nat} (hwidth : width ≤ limit)
    (hheight : height ≤ limit) : v.w ≤ limit ∧ v.h ≤ limit :=
  ⟨((Nat.le_add_left _ _).trans h.across).trans hwidth,
    ((Nat.le_add_left _ _).trans h.down).trans hheight⟩

/-- A window that fits in a window fits where that one does. -/
theorem FitsIn.inside (hinner : inner.FitsIn outer.w outer.h)
    (houter : outer.FitsIn width height) : (inner.inside outer).FitsIn width height where
  w := hinner.w
  h := hinner.h
  across := by
    have := hinner.across
    have := houter.across
    dsimp only [Window.inside]
    omega
  down := by
    have := hinner.down
    have := houter.down
    dsimp only [Window.inside]
    omega

/-- **A window of a window** is a window of the picture. -/
theorem of_of (h : inner.FitsIn outer.w outer.h) (p : Picture) :
    inner.of (outer.of p) = (inner.inside outer).of p := by
  refine congrArg (Picture.mk p.colour) (Grid.ofFn_congr fun i hi j hj => ?_)
  have hacross : inner.x + i < outer.w := by
    have := h.across
    omega
  have hdown : inner.y + j < outer.h := by
    have := h.down
    omega
  show (Grid.ofFn outer.w outer.h _).get _ _ _ = _
  rw [Grid.get_ofFn _ _ hacross hdown, ← Nat.add_assoc, ← Nat.add_assoc]
  rfl

end Window

end MediaTransform
