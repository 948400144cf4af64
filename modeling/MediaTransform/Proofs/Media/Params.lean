import MediaTransform.Geometry
import MediaTransform.Media.Params
import MediaTransform.Proofs.Number.Arithmetic
import MediaTransform.Proofs.Registry

/-! # What typed readings of parameters promise

* **`IsSide`** — the sides of a picture: at least one pixel and at most what 32 bits hold;
  `isSide_sideOf` and `isSide_of_aspectDimensions` say that computed sides are such.
* **`Params.requireNumber_eq_ok_iff`** — a number is required with success where it is finite.
* **`Params.pixels?`** — the number of pixels under a key, the nearest integer.
* **`Params.dimension_eq_ok_some_iff`**, **`requireDimension_eq_ok_iff`**,
  **`requireOffset_eq_ok_iff`** — sides and offsets are read just where that number is in range. -/

namespace MediaTransform

/-! ## (1) Sides -/

/-- **The sides of a picture**: at least one pixel, and at most what 32 bits hold. -/
def IsSide (n : Nat) : Prop := 1 ≤ n ∧ n ≤ maxSide

theorem isSide_sideOf (x : Number) : IsSide (sideOf x) :=
  ⟨Nat.le_max_right _ _, Nat.max_le.2 ⟨Number.toNatUpTo_le _ _, by decide⟩⟩

/-- **The sides of an aspect ratio are in range** if the given ones are. -/
theorem isSide_of_aspectDimensions {w h : Option Nat} {ratio : Number} {sides : Nat × Nat}
    (hw : ∀ n ∈ w, IsSide n) (hh : ∀ n ∈ h, IsSide n)
    (hsides : aspectDimensions w h ratio = some sides) : IsSide sides.1 ∧ IsSide sides.2 := by
  cases w with
  | some w =>
    cases hsides
    exact ⟨hw w rfl, isSide_sideOf _⟩
  | none =>
    cases h with
    | some h =>
      cases hsides
      exact ⟨isSide_sideOf _, hh h rfl⟩
    | none => cases hsides

/-! ## (2) Readings -/

namespace Params

variable {ps : Params} {op key : String} {n : Nat} {side : Option Nat}

/-- A key has a number only where it is present. -/
theorem contains_of_number? {x : Number} (h : ps.number? key = some x) :
    ps.contains key = true := by
  obtain ⟨v, hv, -⟩ := Option.bind_eq_some_iff.1 h
  rw [Dictionary.contains, hv, Option.isSome_some]

/-- **A number is required with success** where one is given and finite. -/
theorem requireNumber_eq_ok_iff {x : Number} :
    ps.requireNumber op key = .ok x ↔ ps.number? key = some x ∧ x.isFinite = true := by
  unfold requireNumber number?
  cases ps.get? key with
  | none => exact ⟨nofun, nofun⟩
  | some v =>
    cases v with
    | text t => exact ⟨nofun, nofun⟩
    | number y =>
      simp only [Option.bind_some, Value.number?, Option.some.injEq]
      by_cases hfinite : y.isFinite = true
      · simp only [if_pos hfinite, Except.ok.injEq]
        constructor
        · rintro rfl
          exact ⟨rfl, hfinite⟩
        · exact And.left
      · simp only [if_neg hfinite, reduceCtorEq, false_iff, not_and]
        rintro rfl
        exact hfinite

/-- A number that is required is one that is given. -/
theorem number?_of_requireNumber {x : Number} (h : ps.requireNumber op key = .ok x) :
    ps.number? key = some x :=
  (requireNumber_eq_ok_iff.1 h).1

/-- **A required number is finite.** -/
theorem isFinite_of_requireNumber {x : Number} (h : ps.requireNumber op key = .ok x) :
    x.isFinite = true :=
  (requireNumber_eq_ok_iff.1 h).2

/-- **The number of pixels under a key**: the nearest integer of a finite number. -/
def pixels? (ps : Params) (key : String) : Option ℤ :=
  (ps.number? key).bind fun x => if x.isFinite then some (roundAway x.value) else none

theorem pixels?_eq_some_iff (op : String) {k : ℤ} :
    ps.pixels? key = some k ↔
      ∃ x, ps.requireNumber op key = .ok x ∧ roundAway x.value = k := by
  simp only [pixels?, requireNumber_eq_ok_iff, Option.bind_eq_some_iff]
  constructor
  · rintro ⟨x, hx, h⟩
    split at h
    · rename_i hfinite
      exact ⟨x, ⟨hx, hfinite⟩, Option.some.inj h⟩
    · cases h
  · rintro ⟨x, ⟨hx, hfinite⟩, rfl⟩
    exact ⟨x, hx, if_pos hfinite⟩

/-- **What is let through** by the check of a rounded number: the naturals of a range. -/
theorem checked_round_eq_ok_iff {x : Number} (hx : x.isFinite = true) {low : Nat}
    (hlow : low < 2 ^ 53) {e : Error} {α : Type} {f : Nat → α} {a : α} :
    (if x.round < .ofNat low ∨ .ofNat maxPixels < x.round then Except.error e
      else Except.ok (f (x.round.toNatUpTo maxPixels))) = .ok a ↔
      ∃ n : Nat, roundAway x.value = n ∧ low ≤ n ∧ n ≤ maxPixels ∧ f n = a := by
  have hrange := Number.round_inRange_iff hx hlow (by decide : maxPixels < 2 ^ 53)
  constructor
  · intro h
    split at h
    · cases h
    · rename_i hinside
      obtain ⟨hlower, hupper⟩ := hrange.1 hinside
      have heq := Number.toNatUpTo_round_eq maxPixels hx (by omega) hupper
      exact ⟨_, heq.symm, by omega, by omega, Except.ok.inj h⟩
  · rintro ⟨n, hn, hlower, hupper, rfl⟩
    have heq := Number.toNatUpTo_round_eq maxPixels hx (by omega) (by omega)
    rw [hn, Nat.cast_inj] at heq
    rw [if_neg (hrange.2 (by omega)), heq]

/-- **A side is read** where the number of pixels is one. -/
theorem dimension_eq_ok_some_iff :
    ps.dimension op key = .ok (some n) ↔ ps.pixels? key = some (n : ℤ) ∧ IsSide n := by
  rw [pixels?_eq_some_iff op]
  constructor
  · intro h
    unfold dimension at h
    split at h
    · obtain ⟨x, hx, h⟩ := bind_eq_ok_iff.1 h
      obtain ⟨m, hm, hlow, hhigh, hn⟩ :=
        (checked_round_eq_ok_iff (isFinite_of_requireNumber hx) (by decide)).1 h
      cases hn
      exact ⟨⟨x, hx, hm⟩, hlow, hhigh⟩
    · cases h
  · rintro ⟨⟨x, hx, hn⟩, hlow, hhigh⟩
    have hcontains := contains_of_number? (requireNumber_eq_ok_iff.1 hx).1
    rw [dimension, if_pos hcontains]
    refine bind_eq_ok_iff.2 ⟨x, hx, ?_⟩
    exact (checked_round_eq_ok_iff (isFinite_of_requireNumber hx) (by decide)).2
      ⟨n, hn, hlow, hhigh, rfl⟩

/-- A side is read exactly where its key is present. -/
theorem isSome_of_dimension (h : ps.dimension op key = .ok side) :
    side.isSome = ps.contains key := by
  unfold dimension at h
  split at h
  · rename_i hcontains
    obtain ⟨x, -, h⟩ := bind_eq_ok_iff.1 h
    dsimp only at h
    split at h
    · cases h
    · cases h
      exact hcontains.symm
  · rename_i hcontains
    cases h
    exact (Bool.eq_false_iff.2 hcontains).symm

/-- A side is required with success where it is given and read. -/
theorem requireDimension_eq_ok_iff_dimension :
    ps.requireDimension op key = .ok n ↔ ps.dimension op key = .ok (some n) := by
  constructor
  · intro h
    obtain ⟨side, hside, h⟩ := bind_eq_ok_iff.1 h
    cases side with
    | none => cases h
    | some m =>
      cases h
      exact hside
  · intro h
    exact bind_eq_ok_iff.2 ⟨_, h, rfl⟩

theorem requireDimension_eq_ok_iff :
    ps.requireDimension op key = .ok n ↔ ps.pixels? key = some (n : ℤ) ∧ IsSide n :=
  requireDimension_eq_ok_iff_dimension.trans dimension_eq_ok_some_iff

/-- **A side that is read is in range.** -/
theorem isSide_of_dimension (h : ps.dimension op key = .ok (some n)) : IsSide n :=
  (dimension_eq_ok_some_iff.1 h).2

/-- A side that is not given is the largest one. -/
theorem isSide_getD_dimension (h : ps.dimension op key = .ok side) : IsSide (side.getD maxSide) := by
  cases side with
  | none => exact ⟨by decide, le_rfl⟩
  | some n => exact isSide_of_dimension h

theorem isSide_of_requireDimension (h : ps.requireDimension op key = .ok n) : IsSide n :=
  (requireDimension_eq_ok_iff.1 h).2

/-- **An offset is read** where the number of pixels is a natural of 32 bits. -/
theorem requireOffset_eq_ok_iff :
    ps.requireOffset op key = .ok n ↔ ps.pixels? key = some (n : ℤ) ∧ n ≤ maxSide := by
  rw [pixels?_eq_some_iff op]
  constructor
  · intro h
    obtain ⟨x, hx, h⟩ := bind_eq_ok_iff.1 h
    obtain ⟨m, hm, -, hhigh, hn⟩ := (checked_round_eq_ok_iff (f := id)
      (isFinite_of_requireNumber hx) (by decide)).1 h
    cases hn
    exact ⟨⟨x, hx, hm⟩, hhigh⟩
  · rintro ⟨⟨x, hx, hn⟩, hhigh⟩
    refine bind_eq_ok_iff.2 ⟨x, hx, ?_⟩
    exact (checked_round_eq_ok_iff (f := id) (isFinite_of_requireNumber hx) (by decide)).2
      ⟨n, hn, Nat.zero_le _, hhigh, rfl⟩

end Params

end MediaTransform
