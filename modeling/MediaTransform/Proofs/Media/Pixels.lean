import Mathlib.Tactic.NormNum
import MediaTransform.Proofs.Failure
import MediaTransform.Proofs.Media.Params
import MediaTransform.Proofs.Number.Nearest

/-! # Numbers of pixels

Sides and offsets are read from numbers that need not be integers:

* **`IsNearestInt`** — the integer nearest to a rational, said over all integers;
  `isNearestInt_iff` has it for rounding.
* **`Value.HasPixels`** — the pixels that a value stands for; `exists_side_iff` and
  `exists_offset_iff` say which values stand for some.
* **`ReadsPixels`** — a reading that gives these pixels, and refuses all other values.
* **`Params.pixels_read_exactly`** — sides and offsets are read so. -/

namespace MediaTransform

/-! ## (1) Nearest integers -/

/-- **The integer nearest to `v`**, a tie going away from zero: no integer is nearer, and one that
is as near is smaller in size. -/
structure IsNearestInt (v : ℚ) (k : ℤ) : Prop where
  near : ∀ j : ℤ, |(k : ℚ) - v| ≤ |(j : ℚ) - v|
  away : ∀ j : ℤ, j ≠ k → |(j : ℚ) - v| = |(k : ℚ) - v| → |j| < |k|

section Nearest

variable {v : ℚ} {j k : ℤ} {n : Nat}

/-- Nearest integers are the same below zero as above. -/
theorem IsNearestInt.neg (h : IsNearestInt v k) : IsNearestInt (-v) (-k) := by
  have hflip (i : ℤ) : |(i : ℚ) - -v| = |((-i : ℤ) : ℚ) - v| := by
    rw [Int.cast_neg, ← abs_neg]
    congr 1
    ring
  constructor
  · intro j
    rw [hflip, hflip, neg_neg]
    exact h.near (-j)
  · intro j hne htie
    rw [hflip, hflip, neg_neg] at htie
    have hless := h.away (-j) (fun heq => hne (by rw [← heq, neg_neg])) htie
    rwa [abs_neg] at hless ⊢

/-- **There is one nearest integer.** -/
theorem IsNearestInt.unique (hj : IsNearestInt v j) (hk : IsNearestInt v k) : j = k := by
  by_contra hne
  have htie : |(j : ℚ) - v| = |(k : ℚ) - v| := le_antisymm (hj.near k) (hk.near j)
  -- each of the two would be the larger one
  exact lt_asymm (hk.away j hne htie) (hj.away k (Ne.symm hne) htie.symm)

/-- Rounding is off by a half at most. -/
theorem abs_roundAway_sub_le (v : ℚ) : |(roundAway v : ℚ) - v| ≤ 1 / 2 := by
  rw [abs_le, roundAway]
  split
  · have hlow := Int.floor_le (v + 1 / 2)
    have hhigh := Int.lt_floor_add_one (v + 1 / 2)
    constructor <;> linarith
  · have hlow := Int.le_ceil (v - 1 / 2)
    have hhigh := Int.ceil_lt_add_one (v - 1 / 2)
    constructor <;> linarith

/-- Rounding gives the nearest integer of what is not negative. -/
theorem isNearestInt_roundAway_of_nonneg (h : 0 ≤ v) : IsNearestInt v (roundAway v) := by
  have hhalf := abs_roundAway_sub_le v
  constructor
  · intro j
    by_cases hj : j = roundAway v
    · rw [hj]
    · have hone := Number.one_le_abs_sub_add (Ne.symm hj) v
      linarith
  · intro j hj htie
    have hone := Number.one_le_abs_sub_add hj v
    have hmiddle : |(roundAway v : ℚ) - v| = 1 / 2 := by linarith
    -- rounding goes up to the larger of the two, and the other one is next to it
    have hup : (roundAway v : ℚ) = v + 1 / 2 := by
      have hhigh := Int.lt_floor_add_one (v + 1 / 2)
      rw [← roundAway_of_nonneg h] at hhigh
      rcases (abs_eq (by norm_num)).1 hmiddle with hplus | hminus <;> linarith
    have hdown : (j : ℚ) = (roundAway v : ℚ) - 1 := by
      rcases (abs_eq (by norm_num)).1 (htie.trans hmiddle) with hplus | hminus
      · exact absurd (by exact_mod_cast (by linarith : (j : ℚ) = roundAway v)) hj
      · linarith
    have hpos : (0 : ℚ) < roundAway v := by linarith
    norm_cast at hdown hpos
    rw [hdown, abs_of_pos hpos, abs_of_nonneg (by omega)]
    omega

/-- **Rounding gives the nearest integer.** -/
theorem isNearestInt_iff : IsNearestInt v k ↔ roundAway v = k := by
  have hround : IsNearestInt v (roundAway v) := by
    rcases le_or_gt 0 v with h | h
    · exact isNearestInt_roundAway_of_nonneg h
    · have hneg := (isNearestInt_roundAway_of_nonneg (neg_nonneg.2 h.le)).neg
      rwa [neg_neg, roundAway_neg, neg_neg] at hneg
  constructor
  · exact hround.unique
  · rintro rfl
    exact hround

/-- A positive natural is reached half a unit below it. -/
theorem natCast_le_roundAway_iff (hn : 1 ≤ n) : (n : ℤ) ≤ roundAway v ↔ (n : ℚ) - 1 / 2 ≤ v := by
  have hone : (1 : ℚ) ≤ n := by exact_mod_cast hn
  rw [roundAway]
  split
  · rw [Int.le_floor, Int.cast_natCast, sub_le_iff_le_add]
  · rename_i hneg
    have hceil : ⌈v - 1 / 2⌉ ≤ 0 := Int.ceil_le.2 (by push_cast; linarith)
    constructor
    · intro h
      omega
    · intro h
      linarith

/-- A natural is passed half a unit above it. -/
theorem roundAway_le_natCast_iff (n : Nat) : roundAway v ≤ n ↔ v < n + 1 / 2 := by
  have hnext : roundAway v ≤ n ↔ ¬((n + 1 : Nat) : ℤ) ≤ roundAway v := by omega
  rw [hnext, natCast_le_roundAway_iff (Nat.le_add_left 1 n), not_le]
  push_cast
  constructor <;> intro h <;> linarith

/-- Above minus a half nothing is rounded to a negative integer; minus a half itself is. -/
theorem roundAway_nonneg_iff : 0 ≤ roundAway v ↔ -(1 / 2) < v := by
  have hone := @natCast_le_roundAway_iff (-v) 1 le_rfl
  rw [roundAway_neg] at hone
  push_cast at hone
  constructor
  · intro h
    by_contra hlow
    have := hone.2 (by linarith)
    omega
  · intro h
    by_contra hneg
    have := hone.1 (by omega)
    linarith

end Nearest

/-! ## (2) Pixels of a value -/

/-- **A value stands for `n` pixels**, where `low` is the least number of them: it is a finite
number, and `n` is the integer nearest to it and has 32 bits. -/
def Value.HasPixels (low : Nat) (v : Value) (n : Nat) : Prop :=
  ∃ x, v = .number x ∧ x.isFinite = true ∧ IsNearestInt x.value n ∧ low ≤ n ∧ n ≤ 2 ^ 32 - 1

section Pixels

variable {low : Nat} {v : Value}

theorem exists_hasPixels_iff :
    (∃ n, v.HasPixels low n) ↔
      ∃ x, v = .number x ∧ x.isFinite = true ∧ (low : ℤ) ≤ roundAway x.value ∧
        roundAway x.value ≤ (2 ^ 32 - 1 : Nat) := by
  constructor
  · rintro ⟨n, x, rfl, hx, hnear, hlow, hhigh⟩
    rw [isNearestInt_iff] at hnear
    exact ⟨x, rfl, hx, by omega, by omega⟩
  · rintro ⟨x, rfl, hx, hlow, hhigh⟩
    obtain ⟨n, hn⟩ := Int.eq_ofNat_of_zero_le ((Int.natCast_nonneg low).trans hlow)
    exact ⟨n, x, rfl, hx, isNearestInt_iff.2 hn, by omega, by omega⟩

/-- **The values that stand for a side.** -/
theorem exists_side_iff :
    (∃ n, v.HasPixels 1 n) ↔
      ∃ x, v = .number x ∧ x.isFinite = true ∧ 1 / 2 ≤ x.value ∧ x.value < 2 ^ 32 - 1 / 2 := by
  rw [exists_hasPixels_iff]
  refine exists_congr fun x => and_congr_right fun _ => and_congr_right fun _ => ?_
  rw [natCast_le_roundAway_iff le_rfl, roundAway_le_natCast_iff]
  norm_num

/-- **The values that stand for an offset.** -/
theorem exists_offset_iff :
    (∃ n, v.HasPixels 0 n) ↔
      ∃ x, v = .number x ∧ x.isFinite = true ∧ -(1 / 2) < x.value ∧ x.value < 2 ^ 32 - 1 / 2 := by
  rw [exists_hasPixels_iff]
  refine exists_congr fun x => and_congr_right fun _ => and_congr_right fun _ => ?_
  rw [Nat.cast_zero, roundAway_nonneg_iff, roundAway_le_natCast_iff]
  norm_num

end Pixels

/-! ## (3) Readings -/

/-- **A reading of the pixels that a value stands for**, on behalf of `op`. -/
structure ReadsPixels {α : Type} (wrap : Nat → α) (low : Nat) (op : String) (v : Value)
    (reading : Except Error α) : Prop where
  /-- It gives the number of these pixels, as `wrap` has it, and nothing else. -/
  read : ∀ a, reading = .ok a ↔ ∃ n, v.HasPixels low n ∧ wrap n = a
  /-- A value that stands for no pixels is refused in the name of `op`. -/
  refused : (¬∃ n, v.HasPixels low n) → ∃ reason, reading = .error (.operation op reason)
  /-- The rounded number that is narrowed to 32 bits fits into them. -/
  exact : ∀ a, reading = .ok a → ∃ x, v = .number x ∧
    wrap (x.round.toNatUpTo Params.maxPixels) = a ∧
    ((x.round.toNatUpTo Params.maxPixels : Nat) : ℚ) = x.round.value

/-- **Pixels are narrowed exactly**: the rounded number is their number. -/
theorem Value.HasPixels.narrow {low n : Nat} {v : Value} (h : v.HasPixels low n) :
    ∃ x, v = .number x ∧ x.round.toNatUpTo Params.maxPixels = n ∧ x.round.value = n := by
  obtain ⟨x, hx, hfinite, hnear, -, hhigh⟩ := h
  have hround := isNearestInt_iff.1 hnear
  have hmost : n ≤ Params.maxPixels := hhigh
  have hnarrow := Number.toNatUpTo_round_eq Params.maxPixels hfinite (by omega) (by omega)
  rw [hround, Nat.cast_inj] at hnarrow
  exact ⟨x, hx, hnarrow, by rw [(Number.value_round hfinite).2, hround, Int.cast_natCast]⟩

/-- **A reading is one of pixels** if it gives them, and fails in the name of `op` only. -/
theorem ReadsPixels.of_read {α : Type} {wrap : Nat → α} {low : Nat} {op : String} {v : Value}
    {reading : Except Error α} (hfails : FailsAs op reading)
    (hread : ∀ a, reading = .ok a ↔ ∃ n, v.HasPixels low n ∧ wrap n = a) :
    ReadsPixels wrap low op v reading where
  read := hread
  refused hnone := hfails.exists_error fun a ha => by
    obtain ⟨n, hn, -⟩ := (hread a).1 ha
    exact hnone ⟨n, hn⟩
  exact a ha := by
    obtain ⟨n, hn, rfl⟩ := (hread a).1 ha
    obtain ⟨x, hx, hnarrow, hvalue⟩ := hn.narrow
    exact ⟨x, hx, by rw [hnarrow], by rw [hnarrow, hvalue]⟩

namespace Params

variable {ps : Params} {key : String} {v : Value}

/-- The pixels of a value are those under its key, in range. -/
theorem hasPixels_iff (hv : ps.get? key = some v) {low n : Nat} :
    v.HasPixels low n ↔ ps.pixels? key = some (n : ℤ) ∧ low ≤ n ∧ n ≤ maxSide := by
  rw [pixels?, number?, hv, Option.bind_some]
  constructor
  · rintro ⟨x, rfl, hfinite, hnear, hrange⟩
    refine ⟨?_, hrange⟩
    rw [Value.number?, Option.bind_some, if_pos hfinite, isNearestInt_iff.1 hnear]
  · rintro ⟨hpixels, hrange⟩
    cases v with
    | text t => cases hpixels
    | number x =>
      rw [Value.number?, Option.bind_some] at hpixels
      split at hpixels
      · rename_i hfinite
        exact ⟨x, rfl, hfinite, isNearestInt_iff.2 (Option.some.inj hpixels), hrange⟩
      · cases hpixels

theorem readsPixels_dimension (op : String) (hv : ps.get? key = some v) :
    ReadsPixels some 1 op v (ps.dimension op key) := by
  refine .of_read (ps.failsAs_dimension op key) fun side => ?_
  cases side with
  | some n =>
    rw [dimension_eq_ok_some_iff, IsSide, ← hasPixels_iff hv]
    simp
  | none =>
    constructor
    · -- the key is there, so that no reading leaves the side out
      intro h
      have hcontains := isSome_of_dimension h
      rw [Dictionary.contains, hv] at hcontains
      cases hcontains
    · rintro ⟨n, -, h⟩
      cases h

theorem readsPixels_requireDimension (op : String) (hv : ps.get? key = some v) :
    ReadsPixels id 1 op v (ps.requireDimension op key) := by
  refine .of_read (ps.failsAs_requireDimension op key) fun n => ?_
  rw [requireDimension_eq_ok_iff, IsSide, ← hasPixels_iff hv]
  simp

theorem readsPixels_requireOffset (op : String) (hv : ps.get? key = some v) :
    ReadsPixels id 0 op v (ps.requireOffset op key) := by
  refine .of_read (ps.failsAs_requireOffset op key) fun n => ?_
  rw [requireOffset_eq_ok_iff]
  simp [hasPixels_iff hv]

/-- **Without a value** there is no side, and nothing that is required can be read. -/
theorem readings_of_absent (op : String) (h : ps.get? key = none) :
    ps.dimension op key = .ok none ∧ ps.requireDimension op key = .error (missing op key) ∧
      ps.requireNumber op key = .error (missing op key) ∧
      ps.requireOffset op key = .error (missing op key) := by
  have hcontains : ¬ps.contains key = true := by simp [Dictionary.contains, h]
  have hdimension : ps.dimension op key = .ok none := by rw [dimension, if_neg hcontains]
  have hnumber : ps.requireNumber op key = .error (missing op key) := by rw [requireNumber, h]
  refine ⟨hdimension, ?_, hnumber, ?_⟩
  · rw [requireDimension, hdimension]
    rfl
  · rw [requireOffset, hnumber]
    rfl

/-- **Numbers of pixels are read exactly.** Where a value is given, sides and offsets are read as
the integer nearest to it, a tie going away from zero, where this has 32 bits and is positive or,
for an offset, not negative. These are the finite numbers from a half, or above minus a half, to
below half a unit under `2 ^ 32`. All other values are refused in the name of the operation, and
what is narrowed to 32 bits is never cut off. Where no value is given, there is no side, and what is
required is missing. -/
theorem pixels_read_exactly (ps : Params) (op key : String) :
    (∀ v, ps.get? key = some v →
      ReadsPixels some 1 op v (ps.dimension op key) ∧
        ReadsPixels id 1 op v (ps.requireDimension op key) ∧
        ReadsPixels id 0 op v (ps.requireOffset op key) ∧
        ((∃ n, v.HasPixels 1 n) ↔ ∃ x, v = .number x ∧ x.isFinite = true ∧
          1 / 2 ≤ x.value ∧ x.value < 2 ^ 32 - 1 / 2) ∧
        ((∃ n, v.HasPixels 0 n) ↔ ∃ x, v = .number x ∧ x.isFinite = true ∧
          -(1 / 2) < x.value ∧ x.value < 2 ^ 32 - 1 / 2)) ∧
      (ps.get? key = none →
        ps.dimension op key = .ok none ∧ ps.requireDimension op key = .error (missing op key) ∧
          ps.requireNumber op key = .error (missing op key) ∧
          ps.requireOffset op key = .error (missing op key)) := by
  constructor
  · intro v hv
    exact ⟨readsPixels_dimension op hv, readsPixels_requireDimension op hv,
      readsPixels_requireOffset op hv, exists_side_iff, exists_offset_iff⟩
  · exact readings_of_absent op

/-- One and a half. -/
def middle : Number := .finite false (3 * 2 ^ 51) (-52) (by decide)

/-- A quarter below zero. -/
def belowZero : Number := .finite true (2 ^ 52) (-54) (by decide)

/-- The first number that is too large, half a unit under `2 ^ 32`. -/
def tooLarge : Number := .finite false ((2 ^ 33 - 1) * 2 ^ 20) (-21) (by decide)

/-- Parameters with numbers in the middle and at the ends, and a text. -/
def sampleSizes : Params :=
  .ofList [("w", .number middle), ("x", .number belowZero), ("y", .number tooLarge),
    ("h", .text "auto")]

/-- A tie goes up, a quarter below zero is zero, and a text and what needs more than 32 bits are
refused. -/
theorem pixels_read_exactly_sample :
    sampleSizes.dimension "c_crop" "w" = .ok (some 2) ∧
      sampleSizes.requireOffset "c_crop" "x" = .ok 0 ∧
      (∃ reason, sampleSizes.requireOffset "c_crop" "y" = .error (.operation "c_crop" reason)) ∧
      (∃ reason, sampleSizes.requireDimension "c_crop" "h" = .error (.operation "c_crop" reason)) ∧
      sampleSizes.dimension "c_crop" "z" = .ok none := by
  obtain ⟨hw, -⟩ := (pixels_read_exactly sampleSizes "c_crop" "w").1 (.number middle) (by decide)
  obtain ⟨-, -, hx, -⟩ :=
    (pixels_read_exactly sampleSizes "c_crop" "x").1 (.number belowZero) (by decide)
  obtain ⟨-, -, hy, -, hyrange⟩ :=
    (pixels_read_exactly sampleSizes "c_crop" "y").1 (.number tooLarge) (by decide)
  obtain ⟨-, hh, -, hhrange, -⟩ :=
    (pixels_read_exactly sampleSizes "c_crop" "h").1 (.text "auto") (by decide)
  obtain ⟨hz, -⟩ := (pixels_read_exactly sampleSizes "c_crop" "z").2 (by decide)
  refine ⟨(hw.read _).2 ⟨2, ⟨middle, rfl, rfl, isNearestInt_iff.2 ?_, by decide, by decide⟩, rfl⟩,
    (hx.read _).2 ⟨0, ⟨belowZero, rfl, rfl, isNearestInt_iff.2 ?_, by decide, by decide⟩, rfl⟩,
    hy.refused ?_, hh.refused ?_, hz⟩
  · have hvalue : middle.value = 3 / 2 := by norm_num [middle, Number.value]
    rw [hvalue, roundAway_of_nonneg (by norm_num)]
    norm_num
  · have hvalue : belowZero.value = -(1 / 4) := by norm_num [belowZero, Number.value]
    rw [hvalue, roundAway_neg, roundAway_of_nonneg (by norm_num)]
    norm_num
  · rw [hyrange]
    rintro ⟨x, hx, -, -, hbelow⟩
    cases hx
    norm_num [tooLarge, Number.value] at hbelow
  · rw [hhrange]
    rintro ⟨x, hx, -⟩
    cases hx

end Params

end MediaTransform
