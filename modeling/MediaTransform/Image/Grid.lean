/-! # Grids: values on a rectangle

* **`Grid`** — `width` by `height` values, row by row from the top, which are worked out when one of
  them is asked for.
* **`Grid.ofFn`** — the grid of a function of the position; **`Grid.at?`** reads it back
  (`at?_ofFn`).
* **`Grid.set`** — one value replaced, if the position lies inside (`at?_set`). -/

namespace MediaTransform

/-- **Values on a rectangle**, row by row from the top. The sides are known before the values. -/
structure Grid (α : Type) where
  width : Nat
  height : Nat
  /-- The values, once they are asked for. -/
  delayed : Thunk (Array α)
  size_delayed : delayed.get.size = width * height

namespace Grid

variable {α β : Type}

/-- The values, row by row. -/
def cells (g : Grid α) : Array α := g.delayed.get

theorem size_cells (g : Grid α) : g.cells.size = g.width * g.height := g.size_delayed

/-- The grid of a function of column and row. -/
def ofFn (width height : Nat) (f : Nat → Nat → α) : Grid α where
  width := width
  height := height
  delayed := .mk fun _ => Array.ofFn (n := width * height) fun i => f (i.val % width) (i.val / width)
  size_delayed := Array.size_ofFn

/-- **The value at a column and a row**, if they lie inside. -/
def at? (g : Grid α) (x y : Nat) : Option α :=
  if x < g.width then g.cells[y * g.width + x]? else none

/-- The value at a column and a row, or a default outside. -/
def get (g : Grid α) (default : α) (x y : Nat) : α := (g.at? x y).getD default

/-- The grid with a function applied to every value. -/
def map (f : α → β) (g : Grid α) : Grid β where
  width := g.width
  height := g.height
  delayed := .mk fun _ => g.cells.map f
  size_delayed := by rw [Thunk.get, Array.size_map, g.size_cells]

/-- The grid with the value at one position replaced; nothing changes outside. -/
def set : Grid α → Nat → Nat → α → Grid α
  | ⟨width, height, delayed, size⟩, x, y, a =>
    { width, height
      delayed := if x < width then .pure (delayed.get.setIfInBounds (y * width + x) a) else delayed
      size_delayed := by
        split
        · show (delayed.get.setIfInBounds (y * width + x) a).size = _
          rw [Array.size_setIfInBounds, size]
        · exact size }

/-- The grid with one value everywhere. -/
def replicate (width height : Nat) (a : α) : Grid α where
  width := width
  height := height
  delayed := .mk fun _ => Array.replicate (width * height) a
  size_delayed := Array.size_replicate

/-- **The values of a function's grid**, row by row. -/
theorem cells_ofFn (w h : Nat) (f : Nat → Nat → α) :
    (ofFn w h f).cells = Array.ofFn (n := w * h) fun i => f (i.val % w) (i.val / w) := rfl

theorem cells_map (f : α → β) (g : Grid α) : (g.map f).cells = g.cells.map f := rfl

@[simp] theorem width_ofFn (w h : Nat) (f : Nat → Nat → α) : (ofFn w h f).width = w := rfl

@[simp] theorem height_ofFn (w h : Nat) (f : Nat → Nat → α) : (ofFn w h f).height = h := rfl

@[simp] theorem width_map (f : α → β) (g : Grid α) : (g.map f).width = g.width := rfl

@[simp] theorem height_map (f : α → β) (g : Grid α) : (g.map f).height = g.height := rfl

@[simp] theorem width_set (g : Grid α) (x y : Nat) (a : α) : (g.set x y a).width = g.width := rfl

@[simp] theorem height_set (g : Grid α) (x y : Nat) (a : α) : (g.set x y a).height = g.height := rfl

/-- A column and a row inside a rectangle give an index inside its cells. -/
theorem index_lt {w h x y : Nat} (hx : x < w) (hy : y < h) : y * w + x < w * h := by
  have : (y + 1) * w ≤ h * w := Nat.mul_le_mul_right w hy
  rw [Nat.add_mul, Nat.one_mul] at this
  rw [Nat.mul_comm w h]
  omega

/-- **An index is a row and a column**: no other ones have it. -/
theorem index_inj {w x y i j : Nat} (hx : x < w) (hi : i < w) :
    y * w + x = j * w + i ↔ i = x ∧ j = y := by
  refine ⟨fun h => ?_, fun ⟨hix, hjy⟩ => by rw [hix, hjy]⟩
  have hmod := congrArg (· % w) h
  have hdiv := congrArg (· / w) h
  have hpos : 0 < w := Nat.zero_lt_of_lt hx
  simp only [Nat.mul_comm _ w, Nat.mul_add_mod, Nat.mod_eq_of_lt hx, Nat.mod_eq_of_lt hi,
    Nat.mul_add_div hpos, Nat.div_eq_of_lt hx, Nat.div_eq_of_lt hi, Nat.add_zero] at hmod hdiv
  exact ⟨hmod.symm, hdiv.symm⟩

/-- **Reading a function's grid gives the function's value.** -/
theorem at?_ofFn (w h : Nat) (f : Nat → Nat → α) (x y : Nat) :
    (ofFn w h f).at? x y = if x < w ∧ y < h then some (f x y) else none := by
  rw [at?, cells_ofFn, width_ofFn]
  by_cases hx : x < w
  · rw [if_pos hx]
    have hw : 0 < w := by omega
    by_cases hy : y < h
    · have hlt := index_lt hx hy
      rw [if_pos ⟨hx, hy⟩, Array.getElem?_ofFn, dif_pos hlt]
      have h1 : (y * w + x) % w = x := by
        rw [Nat.add_comm, Nat.mul_comm, Nat.add_mul_mod_self_left, Nat.mod_eq_of_lt hx]
      have h2 : (y * w + x) / w = y := by
        rw [Nat.add_comm, Nat.mul_comm, Nat.add_mul_div_left _ _ hw, Nat.div_eq_of_lt hx]
        omega
      simp [h1, h2]
    · rw [if_neg (fun c => hy c.2), Array.getElem?_ofFn, dif_neg]
      have : h * w ≤ y * w := Nat.mul_le_mul_right w (by omega)
      rw [Nat.mul_comm w h]
      omega
  · rw [if_neg hx, if_neg (fun c => hx c.1)]

theorem at?_map (f : α → β) (g : Grid α) (x y : Nat) :
    (g.map f).at? x y = (g.at? x y).map f := by
  rw [at?, at?, cells_map, width_map]
  split <;> simp

theorem cells_set (g : Grid α) (x y : Nat) (a : α) :
    (g.set x y a).cells
      = if x < g.width then g.cells.setIfInBounds (y * g.width + x) a else g.cells := by
  unfold set cells
  dsimp only
  split <;> rfl

/-- **Reading a grid with one value replaced** gives that value at its position, if there is one. -/
theorem at?_set (g : Grid α) (x y : Nat) (a : α) (i j : Nat) :
    (g.set x y a).at? i j = if i = x ∧ j = y then (g.at? x y).map fun _ => a else g.at? i j := by
  rw [at?, cells_set, width_set]
  by_cases hsame : i = x ∧ j = y
  · rw [if_pos hsame, hsame.1, hsame.2, at?]
    by_cases hx : x < g.width
    · rw [if_pos hx, if_pos hx, if_pos hx, Array.getElem?_setIfInBounds, if_pos rfl, getElem?_def]
      split <;> rfl
    · rw [if_neg hx, if_neg hx, Option.map_none]
  · rw [if_neg hsame, at?]
    by_cases hx : x < g.width
    · rw [if_pos hx]
      by_cases hi : i < g.width
      · rw [if_pos hi, if_pos hi, Array.getElem?_setIfInBounds,
          if_neg (hsame ∘ (index_inj hx hi).1)]
      · rw [if_neg hi, if_neg hi]
    · rw [if_neg hx]

/-- Whether a position lies inside. -/
def Inside (g : Grid α) (x y : Nat) : Prop := x < g.width ∧ y < g.height

theorem isSome_at?_iff (g : Grid α) (x y : Nat) : (g.at? x y).isSome ↔ g.Inside x y := by
  unfold at? Inside
  by_cases hx : x < g.width
  · rw [if_pos hx, getElem?_def]
    constructor
    · intro some
      have hlt : y * g.width + x < g.width * g.height := by
        rw [← g.size_cells]
        by_cases c : y * g.width + x < g.cells.size
        · exact c
        · rw [dif_neg c] at some; cases some
      refine ⟨hx, ?_⟩
      by_cases hy : y < g.height
      · exact hy
      · have : g.height * g.width ≤ y * g.width := Nat.mul_le_mul_right _ (by omega)
        rw [Nat.mul_comm g.width] at hlt
        omega
    · intro c
      rw [dif_pos (g.size_cells ▸ index_lt hx c.2)]
      rfl
  · simp [hx]

end Grid

end MediaTransform
