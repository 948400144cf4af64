import MediaTransform.Image.Contour

/-! # Borders run along figures

Border following marks the points that it visits and puts them on borders. It goes from one point
with a mark to the next, and marks such points only; so what is marked stays within the figures, and
so do all borders.

* **`Grid.IsSetAt`** — the points where a black and white picture has a figure.
* **`Contour.WithinFigures`** — marks on figures only; `WithinFigures.setMark` has it for one more.
* **`Contour.follow_within`**, **`traceFrom_within`** — one border; **`Scan.Within`** — the scan, step
  by step.
* **`Contour.isSetAt_of_mem_find`** — every point of every border lies on a figure. -/

namespace MediaTransform

/-- **A point where a picture of black and white is set.** -/
def Grid.IsSetAt (g : Grid Bool) (p : Point) : Prop :=
  0 ≤ p.x ∧ 0 ≤ p.y ∧ g.at? p.x.toNat p.y.toNat = some true

namespace Contour

/-! ## (1) Marks -/

/-- **Marks on the figures of a picture only.** -/
def WithinFigures (g : Grid Bool) (marks : Grid Int) : Prop :=
  ∀ p, markAt marks p ≠ 0 → g.IsSetAt p

variable {g : Grid Bool} {marks : Grid Int} {p q here before start beside : Point} {v number : Int}

/-- The first marks are the figures. -/
theorem withinFigures_map (g : Grid Bool) : WithinFigures g (g.map fun b => if b then 1 else 0) := by
  intro p hmark
  unfold markAt at hmark
  split at hmark
  · exact absurd rfl hmark
  · rename_i hinside
    refine ⟨by omega, by omega, ?_⟩
    rw [Grid.get, Grid.at?_map] at hmark
    cases hvalue : g.at? p.x.toNat p.y.toNat with
    | none =>
      rw [hvalue] at hmark
      exact absurd rfl hmark
    | some b =>
      rw [hvalue] at hmark
      cases b with
      | true => rfl
      | false => exact absurd rfl hmark

/-- A mark that is set changes no other one. -/
theorem markAt_setMark_of_ne (h : p ≠ q) : markAt (setMark marks q v) p = markAt marks p := by
  unfold setMark
  split
  · rfl
  · rename_i hq
    unfold markAt
    split
    · rfl
    · rename_i hp
      -- with no negative coordinates, the two are at different places of the grid
      have hne : ¬(p.x.toNat = q.x.toNat ∧ p.y.toNat = q.y.toNat) := by
        rintro ⟨hx, hy⟩
        refine h ?_
        cases p
        cases q
        rw [Point.mk.injEq]
        dsimp only at hp hq hx hy
        omega
      rw [Grid.get, Grid.at?_set, if_neg hne, Grid.get]

/-- **Marking a point of a figure** keeps the marks on the figures. -/
theorem WithinFigures.setMark (h : WithinFigures g marks) (hq : g.IsSetAt q) (v : Int) :
    WithinFigures g (setMark marks q v) := by
  intro p hmark
  by_cases hpq : p = q
  · exact hpq ▸ hq
  · exact h p (markAt_setMark_of_ne hpq ▸ hmark)

/-! ## (2) One border -/

/-- The point that is found among directions has a mark. -/
theorem markAt_of_firstFigure {centre next : Point} {directions : List (Int × Int)}
    {passed passed' : Bool} (h : firstFigure marks centre directions passed = some (next, passed')) :
    markAt marks next ≠ 0 := by
  induction directions generalizing passed with
  | nil => cases h
  | cons d rest ih =>
    unfold firstFigure at h
    split at h
    · rename_i hmark
      cases h
      exact hmark
    · exact ih h

/-- **Following a border stays on the figures**: its marks and its points lie there. -/
theorem follow_within {second : Point} {done : List Point} (fuel : Nat) (h : WithinFigures g marks)
    (hhere : g.IsSetAt here) (hdone : ∀ p ∈ done, g.IsSetAt p) :
    WithinFigures g (follow number start second fuel marks before here done).1 ∧
      ∀ p ∈ (follow number start second fuel marks before here done).2, g.IsSetAt p := by
  induction fuel generalizing marks before here done with
  | zero => exact ⟨h, hdone⟩
  | succ fuel ih =>
    -- wherever the border ends, the points so far are what it has
    have hpoints : ∀ p ∈ here :: done, g.IsSetAt p := List.forall_mem_cons.2 ⟨hhere, hdone⟩
    unfold follow
    split
    · exact ⟨h, hpoints⟩
    · rename_i next passed hnext
      have hmarked : WithinFigures g
          (if here.x + 1 = marks.width ∨ passed then Contour.setMark marks here (-number)
            else if markAt marks here = 1 then Contour.setMark marks here number else marks) := by
        split
        · exact h.setMark hhere _
        · split
          · exact h.setMark hhere _
          · exact h
      dsimp only
      split
      · exact ⟨hmarked, hpoints⟩
      · exact ih hmarked (h next (markAt_of_firstFigure hnext)) hpoints

/-- **A border that begins on a figure** stays there. -/
theorem traceFrom_within (number : Int) (beside : Point) (h : WithinFigures g marks)
    (hstart : g.IsSetAt start) :
    WithinFigures g (traceFrom marks number start beside).1 ∧
      ∀ p ∈ (traceFrom marks number start beside).2, g.IsSetAt p := by
  unfold traceFrom
  split
  · exact ⟨h.setMark hstart _, List.forall_mem_singleton.2 hstart⟩
  · obtain ⟨hmarks, hpoints⟩ := follow_within (8 * marks.width * marks.height + 8) h hstart
      (List.forall_mem_nil _)
    exact ⟨hmarks, fun p hp => hpoints p (List.mem_reverse.1 hp)⟩

/-! ## (3) The scan -/

/-- **What the scan keeps**: its marks and all borders found lie on the figures. -/
structure Scan.Within (g : Grid Bool) (s : Scan) : Prop where
  marks : WithinFigures g s.marks
  found : ∀ c ∈ s.found, ∀ p ∈ c.points, g.IsSetAt p

namespace Scan

variable {s : Scan}

/-- A new border. -/
theorem Within.add (h : s.Within g) (hstart : g.IsSetAt start) (outer : Bool) (around : Nat) :
    (s.add start beside outer around).Within g := by
  obtain ⟨hmarks, hpoints⟩ := traceFrom_within (s.number + 1 : Nat) beside h.marks hstart
  refine ⟨hmarks, fun c hc => ?_⟩
  rcases Array.mem_push.1 hc with hc | rfl
  · exact h.found c hc
  · exact hpoints

/-- A row begins in the frame of the picture. -/
def startRow (s : Scan) (p : Point) : Scan := if p.x = 0 then { s with around := 1 } else s

/-- The border that begins at a point, if one does. -/
def beginBorder (s : Scan) (p : Point) : Scan :=
  if markAt s.marks p = 1 ∧ 0 < p.x ∧ markAt s.marks ⟨p.x - 1, p.y⟩ = 0 then
    s.add p ⟨p.x - 1, p.y⟩ true s.around
  else if 0 < markAt s.marks p ∧ p.x + 1 < s.marks.width ∧ markAt s.marks ⟨p.x + 1, p.y⟩ = 0 then
    s.add p ⟨p.x + 1, p.y⟩ false
      (if 1 < markAt s.marks p then (markAt s.marks p).toNat else s.around)
  else s

/-- The border that a point is on is met. -/
def meet (s : Scan) (p : Point) : Scan :=
  if markAt s.marks p ≠ 1 then { s with around := (markAt s.marks p).natAbs } else s

/-- **One point of the scan**, in its three steps. -/
theorem visit_eq (s : Scan) (p : Point) :
    s.visit p = if markAt (s.startRow p).marks p = 0 then s.startRow p
      else ((s.startRow p).beginBorder p).meet p := rfl

theorem Within.startRow (h : s.Within g) (p : Point) : (s.startRow p).Within g := by
  unfold Scan.startRow
  split
  · exact ⟨h.marks, h.found⟩
  · exact h

theorem Within.beginBorder (h : s.Within g) (hp : g.IsSetAt p) : (s.beginBorder p).Within g := by
  unfold Scan.beginBorder
  split
  · exact h.add hp _ _
  · split
    · exact h.add hp _ _
    · exact h

theorem Within.meet (h : s.Within g) (p : Point) : (s.meet p).Within g := by
  unfold Scan.meet
  split
  · exact ⟨h.marks, h.found⟩
  · exact h

theorem Within.visit (h : s.Within g) (p : Point) : (s.visit p).Within g := by
  have hrow := h.startRow p
  rw [visit_eq]
  split
  · exact hrow
  · rename_i hmark
    exact (hrow.beginBorder (hrow.marks p hmark)).meet p

end Scan

/-- **Every point of every border lies on a figure.** -/
theorem isSetAt_of_mem_find {c : Contour} (hc : c ∈ find g) (hp : p ∈ c.points) : g.IsSetAt p := by
  have hscan : ∀ (points : List Nat) (s : Scan), s.Within g →
      (points.foldl (fun s i => s.visit ⟨(i % g.width : Nat), (i / g.width : Nat)⟩) s).Within g := by
    intro points
    induction points with
    | nil => exact fun s h => h
    | cons i points ih => exact fun s h => ih _ (h.visit _)
  have hstart : Scan.Within g ⟨g.map fun b => if b then 1 else 0, 1, 1, #[]⟩ :=
    ⟨withinFigures_map g, fun c hc => absurd hc (Array.not_mem_empty c)⟩
  exact (hscan _ _ hstart).found c (Array.mem_toList_iff.1 hc) p hp

end Contour

end MediaTransform
