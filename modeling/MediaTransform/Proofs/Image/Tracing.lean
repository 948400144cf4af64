import MediaTransform.Image.Edges
import MediaTransform.Proofs.Image.Window

/-! # Edges are always found above a positive threshold

Tracing looks at the neighbours of the points that it follows. It fails only where one of these lies
outside of the picture, and that takes a point on the border to be followed.

* **`Edges.IsInner`** — the points that are not on the border.
* **`Edges.Faint`** — strengths that are below the lower threshold on the border;
  `faint_thin` has it for thinned edges.
* **`Edges.Traced`** — what tracing keeps: all points on the stack are inner ones.
* **`Edges.isSome_detect`** — so the detector gives edges for every picture.
* **`Edges.sides_detect`** — edges have the sides of their picture, whatever the thresholds. -/

namespace MediaTransform

namespace Edges

/-! ## (1) Inner points -/

/-- **A point that is not on the border** of a grid. -/
def IsInner {α : Type} (g : Grid α) (p : Int × Int) : Prop :=
  0 < p.1 ∧ 0 < p.2 ∧ p.1 + 1 < g.width ∧ p.2 + 1 < g.height

/-- **Strengths that are below a threshold on the border.** -/
def Faint (strengths : Grid Float32) (low : Float32) : Prop :=
  ∀ x y v, strengths.at? x y = some v → low ≤ v → IsInner strengths ((x : Int), (y : Int))

/-- The strength of the border is zero. -/
theorem faint_thin {low : Float32} (h : ¬low ≤ 0) (gradients : Grid Gradient) :
    Faint (thin gradients) low := by
  intro x y v hv hlow
  unfold thin at hv
  dsimp only at hv
  rw [Grid.at?_ofFn] at hv
  split at hv
  · split at hv
    · rename_i hinner
      obtain ⟨hx, hy, hwidth, hheight⟩ := hinner
      exact ⟨Int.natCast_pos.2 hx, Int.natCast_pos.2 hy, Int.ofNat_lt.2 hwidth,
        Int.ofNat_lt.2 hheight⟩
    · cases hv
      exact absurd hlow h
  · cases hv

/-! ## (2) Tracing -/

/-- **What tracing keeps** of its marks and its stack. -/
structure Traced (strengths : Grid Float32) (state : Grid Bool × List (Int × Int)) : Prop where
  width : state.1.width = strengths.width
  height : state.1.height = strengths.height
  inner : ∀ p ∈ state.2, IsInner strengths p

variable {strengths : Grid Float32} {low : Float32} {x y : Int}
  {state : Grid Bool × List (Int × Int)}

/-- A look at a point inside the picture. -/
theorem look_traced (hfaint : Faint strengths low) (hx : 0 ≤ x ∧ x < strengths.width)
    (hy : 0 ≤ y ∧ y < strengths.height) (h : Traced strengths state) :
    ∃ state', look strengths low x y (some state) = some state' ∧ Traced strengths state' := by
  obtain ⟨marks, stack⟩ := state
  obtain ⟨hwidth, hheight, hinner⟩ := h
  dsimp only at hwidth hheight hinner
  have hinside : ¬(x < 0 ∨ y < 0) := by omega
  have hxnat : (x.toNat : Int) = x := Int.toNat_of_nonneg hx.1
  have hynat : (y.toNat : Int) = y := Int.toNat_of_nonneg hy.1
  obtain ⟨v, hv⟩ := Option.isSome_iff_exists.1
    ((strengths.isSome_at?_iff x.toNat y.toNat).2 ⟨by omega, by omega⟩)
  obtain ⟨marked, hmarked⟩ := Option.isSome_iff_exists.1
    ((marks.isSome_at?_iff x.toNat y.toNat).2 ⟨by omega, by omega⟩)
  simp only [look, if_neg hinside, hv, hmarked]
  split
  · rename_i hstrong
    refine ⟨_, rfl, by simpa using hwidth, by simpa using hheight, ?_⟩
    have hlow : low ≤ v := by simpa using And.left (Bool.and_eq_true_iff.1 hstrong)
    have hpoint := hfaint _ _ _ hv hlow
    rw [hxnat, hynat] at hpoint
    exact List.forall_mem_cons.2 ⟨hpoint, hinner⟩
  · exact ⟨_, rfl, hwidth, hheight, hinner⟩

/-- Looks at several points inside the picture. -/
theorem looks_traced (hfaint : Faint strengths low) {steps : List (Int × Int)}
    (hsteps : ∀ d ∈ steps, (0 ≤ x + d.1 ∧ x + d.1 < strengths.width) ∧
      0 ≤ y + d.2 ∧ y + d.2 < strengths.height) (h : Traced strengths state) :
    ∃ state', steps.foldl (fun s d => look strengths low (x + d.1) (y + d.2) s) (some state)
      = some state' ∧ Traced strengths state' := by
  induction steps generalizing state with
  | nil => exact ⟨state, rfl, h⟩
  | cons d steps ih =>
    obtain ⟨hx, hy⟩ := hsteps d List.mem_cons_self
    obtain ⟨next, hlook, hnext⟩ := look_traced hfaint hx hy h
    rw [List.foldl_cons, hlook]
    exact ih (fun d' hd' => hsteps d' (List.mem_cons_of_mem _ hd')) hnext

/-- The neighbours of an inner point lie inside. -/
theorem inside_of_isInner (h : IsInner strengths (x, y)) :
    ∀ d ∈ tracedSteps, (0 ≤ x + d.1 ∧ x + d.1 < strengths.width) ∧
      0 ≤ y + d.2 ∧ y + d.2 < strengths.height := by
  have hnear : ∀ d ∈ tracedSteps, -1 ≤ d.1 ∧ d.1 ≤ 1 ∧ -1 ≤ d.2 ∧ d.2 ≤ 1 := by decide
  intro d hd
  obtain ⟨hx, hy, hwidth, hheight⟩ := h
  obtain ⟨hleft, hright, hup, hdown⟩ := hnear d hd
  dsimp only at hx hy hwidth hheight
  omega

/-- **Following inner points never fails.** -/
theorem follow_traced (hfaint : Faint strengths low) (fuel : Nat) {marks : Grid Bool}
    {stack : List (Int × Int)} (h : Traced strengths (marks, stack)) :
    ∃ marks', follow strengths low fuel marks stack = some marks' ∧
      marks'.width = strengths.width ∧ marks'.height = strengths.height := by
  induction fuel generalizing marks stack with
  | zero => exact ⟨marks, rfl, h.width, h.height⟩
  | succ fuel ih =>
    cases stack with
    | nil => exact ⟨marks, rfl, h.width, h.height⟩
    | cons p stack =>
      obtain ⟨x, y⟩ := p
      obtain ⟨hpoint, hrest⟩ := List.forall_mem_cons.1 h.inner
      have htraced : Traced strengths (marks, stack) := ⟨h.width, h.height, hrest⟩
      obtain ⟨⟨marks', stack'⟩, hlooks, hnext⟩ :=
        looks_traced hfaint (inside_of_isInner hpoint) htraced
      simp only [follow, hlooks]
      exact ih hnext

/-- Tracing begins at inner points. -/
theorem traceFrom_traced (hfaint : Faint strengths low) (high : Float32) {marks : Grid Bool}
    (hwidth : marks.width = strengths.width) (hheight : marks.height = strengths.height) (i : Nat) :
    ∃ marks', traceFrom strengths low high marks i = some marks' ∧
      marks'.width = strengths.width ∧ marks'.height = strengths.height := by
  unfold traceFrom
  dsimp only
  split
  · rename_i hinner
    obtain ⟨hx, hy, hright, hdown⟩ := hinner
    split
    · refine follow_traced hfaint _ ⟨by simpa using hwidth, by simpa using hheight, ?_⟩
      exact List.forall_mem_singleton.2 ⟨Int.natCast_pos.2 hx, Int.natCast_pos.2 hy,
        Int.ofNat_lt.2 hright, Int.ofNat_lt.2 hdown⟩
    · exact ⟨marks, rfl, hwidth, hheight⟩
  · exact ⟨marks, rfl, hwidth, hheight⟩

/-- **Tracing never fails** where the border is faint. -/
theorem isSome_trace (hfaint : Faint strengths low) (high : Float32) :
    (trace strengths low high).isSome = true := by
  have hpoints : ∀ (points : List Nat) (marks : Grid Bool), marks.width = strengths.width →
      marks.height = strengths.height →
      (points.foldlM (traceFrom strengths low high) marks).isSome = true := by
    intro points
    induction points with
    | nil => exact fun _ _ _ => rfl
    | cons i points ih =>
      intro marks hwidth hheight
      obtain ⟨marks', hfrom, hwidth', hheight'⟩ := traceFrom_traced hfaint high hwidth hheight i
      rw [List.foldlM_cons, hfrom]
      exact ih marks' hwidth' hheight'
  exact hpoints _ _ rfl rfl

/-! ## (3) Detection -/

/-- **Whether there are edges is a matter of the thresholds alone**, where the lower one is
positive. -/
theorem isSome_detect {low : Number} (hpositive : ¬low.toFloat32 ≤ 0) (g : Grid Nat)
    (high : Number) : (detect g low high).isSome = decide (low ≤ high) := by
  unfold detect
  by_cases hle : low ≤ high
  · rw [if_pos hle, decide_eq_true hle]
    exact isSome_trace (faint_thin hpositive _) _
  · rw [if_neg hle, decide_eq_false hle]
    rfl

/-! ## (4) Sides -/

section Sides

variable {marks marks' : Grid Bool} {stack : List (Int × Int)} {high : Float32}

/-- A look sets one mark at most. -/
theorem sides_look {state' : Grid Bool × List (Int × Int)}
    (h : look strengths low x y (some state) = some state') : state'.1.sides = state.1.sides := by
  unfold look at h
  dsimp only at h
  split at h
  · cases h
  · split at h
    · split at h
      · cases h
        rfl
      · cases h
        rfl
    · cases h

/-- A look that fails is the last one. -/
theorem looks_none (steps : List (Int × Int)) :
    steps.foldl (fun s d => look strengths low (x + d.1) (y + d.2) s) none = none := by
  induction steps with
  | nil => rfl
  | cons d steps ih => exact ih

theorem sides_looks {steps : List (Int × Int)} {state' : Grid Bool × List (Int × Int)}
    (h : steps.foldl (fun s d => look strengths low (x + d.1) (y + d.2) s) (some state)
      = some state') : state'.1.sides = state.1.sides := by
  induction steps generalizing state with
  | nil =>
    cases h
    rfl
  | cons d steps ih =>
    rw [List.foldl_cons] at h
    cases hlook : look strengths low (x + d.1) (y + d.2) (some state) with
    | some next =>
      rw [hlook] at h
      exact (ih h).trans (sides_look hlook)
    | none =>
      rw [hlook, looks_none] at h
      cases h

theorem sides_follow (fuel : Nat) (h : follow strengths low fuel marks stack = some marks') :
    marks'.sides = marks.sides := by
  induction fuel generalizing marks stack with
  | zero =>
    cases h
    rfl
  | succ fuel ih =>
    cases stack with
    | nil =>
      cases h
      rfl
    | cons p stack =>
      unfold follow at h
      split at h
      · cases h
      · rename_i hlooks
        exact (ih h).trans (sides_looks hlooks)

theorem sides_traceFrom {i : Nat} (h : traceFrom strengths low high marks i = some marks') :
    marks'.sides = marks.sides := by
  unfold traceFrom at h
  dsimp only at h
  split at h
  · split at h
    · exact (sides_follow _ h).trans (marks.sides_set _ _ _)
    · cases h
      rfl
  · cases h
    rfl

/-- **Edges have the sides of their picture.** -/
theorem sides_detect {g : Grid Nat} {low high : Number} {edges : Grid Bool}
    (h : detect g low high = some edges) : edges.sides = g.sides := by
  unfold detect at h
  split at h
  · have hpoints : ∀ (strengths : Grid Float32) (low high : Float32) (points : List Nat)
        (marks : Grid Bool), points.foldlM (traceFrom strengths low high) marks = some edges →
        edges.sides = marks.sides := by
      intro strengths low high points
      induction points with
      | nil =>
        intro marks h
        cases h
        rfl
      | cons i points ih =>
        intro marks h
        rw [List.foldlM_cons] at h
        obtain ⟨next, hnext, h⟩ := Option.bind_eq_some_iff.1 h
        exact (ih next h).trans (sides_traceFrom hnext)
    exact hpoints _ _ _ _ _ h
  · cases h

end Sides

end Edges

end MediaTransform
