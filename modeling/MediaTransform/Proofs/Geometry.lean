import MediaTransform.Proofs.Media.Params
import MediaTransform.Proofs.Number.Arithmetic

/-! # Sizes of resized pictures, bounded

Ratios and products are rounded, but for sides of 32 bits the errors stay far below half a pixel:

* **`Number.IsNear`** — a ratio within one rounding of an exact quotient of sides.
* **`sideOf_mul_le`**, **`le_sideOf_mul`** — a side times a ratio is rounded to no more, or no less,
  than the side that the ratio was made from.
* **`coverDimensions_cases`** — a cover has one of the asked sides, and the other one reaches over.
* **`coverDimensions_le`** — a cover that enlarges nothing stays within the picture;
  `coverDimensions_oneWay` says that no cover enlarges one side and makes the other one smaller.
* **`fitDimensions_cases`** — a fit has one of the asked sides, and does not pass the other one;
  `fitDimensions_inside` says so for pictures without columns or rows as well.
* **`fitDimensions_self`** — a picture fits its own box as it is. -/

namespace MediaTransform

open Number (value ofRat)

/-! ## (1) Sides and ratios -/

theorem IsSide.lt {n : Nat} (h : IsSide n) : n < 2 ^ 53 :=
  h.2.trans_lt (by decide)

theorem IsSide.one_le {n : Nat} (h : IsSide n) : (1 : ℚ) ≤ n := by
  exact_mod_cast h.1

theorem IsSide.pos {n : Nat} (h : IsSide n) : (0 : ℚ) < n := lt_of_lt_of_le one_pos h.one_le

theorem IsSide.le_maxSide {n : Nat} (h : IsSide n) : (n : ℚ) ≤ 2 ^ 32 := by
  have hle : n ≤ 2 ^ 32 := h.2.trans (by decide)
  exact_mod_cast hle

/-- **The side of a number**: the nearest integer, in the range of sides. -/
theorem sideOf_of_isFinite {x : Number} (hx : x.isFinite = true) :
    sideOf x = max (min maxSide ⌊x.value + 1 / 2⌋₊) 1 := by
  rw [sideOf, Number.toNatUpTo_round maxSide hx]

/-- A number that is at least a side, up to half a pixel, stands for no smaller side. -/
theorem le_sideOf {x : Number} {n : Nat} (hn : IsSide n) (hx : x.isFinite = true)
    (h : (n : ℚ) ≤ x.value + 1 / 2) : n ≤ sideOf x := by
  rw [sideOf_of_isFinite hx]
  exact le_max_of_le_left (le_min hn.2 (Nat.le_floor h))

/-- A number that is less than half a pixel above a side stands for no larger side. -/
theorem sideOf_le {x : Number} {n : Nat} (hn : IsSide n) (hx : x.isFinite = true)
    (h : x.value < n + 1 / 2) (hvalue : 0 ≤ x.value) : sideOf x ≤ n := by
  have hfloor : ⌊x.value + 1 / 2⌋₊ < n + 1 := by
    rw [Nat.floor_lt (by linarith)]
    push_cast
    linarith
  rw [sideOf_of_isFinite hx]
  exact max_le ((min_le_right _ _).trans (Nat.lt_succ_iff.1 hfloor)) hn.1

namespace Number

/-- **A ratio near a quotient**: a finite number off by one part in `2 ^ 53` at most. -/
structure IsNear (r : Number) (v : ℚ) : Prop where
  finite : r.isFinite = true
  error : |r.value - v| ≤ v / 2 ^ 53

section IsNear

variable {r : Number} {v : ℚ}

theorem IsNear.le (h : r.IsNear v) : v * (1 - 1 / 2 ^ 53) ≤ r.value := by
  have herror := (abs_le.1 h.error).1
  linarith

theorem IsNear.ge (h : r.IsNear v) : r.value ≤ v * (1 + 1 / 2 ^ 53) := by
  have herror := (abs_le.1 h.error).2
  linarith

/-- Rounding leaves a rational near itself, unless it is very small or very large. -/
theorem isNear_ofRat (hlow : 1 / 2 ^ 99 ≤ v) (hhigh : v ≤ 2 ^ 99) : (ofRat v).IsNear v := by
  have hlarge : v ≤ (Number.finite false (2 ^ 52) 47 (by decide)).value := by
    refine hhigh.trans (le_of_eq ?_)
    norm_num [value]
  have hfinite : (ofRat v).isFinite = true := (ofRat_le (le_trans (by positivity) hlow) hlarge).1
  refine ⟨hfinite, abs_ofRat_sub_le (le_trans ?_ hlow) hfinite⟩
  rw [one_div, ← zpow_natCast, ← zpow_neg]
  exact zpow_le_zpow_right₀ one_le_two (by decide)

end IsNear

end Number

/-! ## (2) Ratios of sides -/

/-- **A ratio between sides**: a finite number of their range. -/
structure Number.IsRatio (r : Number) : Prop where
  finite : r.isFinite = true
  low : 1 / 2 ^ 33 ≤ r.value
  high : r.value ≤ 2 ^ 33

theorem Number.IsRatio.pos {r : Number} (h : r.IsRatio) : 0 < r.value :=
  lt_of_lt_of_le (by positivity) h.low

section Ratios

variable {side target n : Nat} {r : Number}

/-- The ratio of two sides is their quotient, rounded. -/
theorem sideRatio_eq (ht : IsSide target) (hs : IsSide side) :
    sideRatio target side = ofRat (target / side) := by
  have htarget := Number.value_ofNat ht.lt
  have hside := Number.value_ofNat hs.lt
  rw [sideRatio, Number.div_of_pos (by rw [htarget]; exact ht.pos) (by rw [hside]; exact hs.pos),
    htarget, hside]

/-- The quotient of two sides is in their range. -/
theorem div_bounds (ht : IsSide target) (hs : IsSide side) :
    1 / 2 ^ 32 ≤ (target : ℚ) / side ∧ (target : ℚ) / side ≤ 2 ^ 32 :=
  ⟨div_le_div₀ ht.pos.le ht.one_le hs.pos hs.le_maxSide,
    (div_le_self ht.pos.le hs.one_le).trans ht.le_maxSide⟩

/-- **The ratio of two sides** is near their quotient. -/
theorem isNear_sideRatio (ht : IsSide target) (hs : IsSide side) :
    (sideRatio target side).IsNear (target / side) := by
  obtain ⟨hlow, hhigh⟩ := div_bounds ht hs
  rw [sideRatio_eq ht hs]
  exact Number.isNear_ofRat (le_trans (by norm_num) hlow) (hhigh.trans (by norm_num))

theorem isRatio_sideRatio (ht : IsSide target) (hs : IsSide side) :
    (sideRatio target side).IsRatio := by
  obtain ⟨hlow, hhigh⟩ := div_bounds ht hs
  have hnear := isNear_sideRatio ht hs
  refine ⟨hnear.finite, ?_, ?_⟩
  · calc (1 : ℚ) / 2 ^ 33 ≤ 1 / 2 ^ 32 * (1 - 1 / 2 ^ 53) := by norm_num
      _ ≤ (target : ℚ) / side * (1 - 1 / 2 ^ 53) := mul_le_mul_of_nonneg_right hlow (by norm_num)
      _ ≤ (sideRatio target side).value := hnear.le
  · calc (sideRatio target side).value ≤ (target : ℚ) / side * (1 + 1 / 2 ^ 53) := hnear.ge
      _ ≤ 2 ^ 32 * (1 + 1 / 2 ^ 53) := mul_le_mul_of_nonneg_right hhigh (by norm_num)
      _ ≤ 2 ^ 33 := by norm_num

/-- The ratio of a side to one that is not smaller is at most one. -/
theorem value_sideRatio_le_one (ht : IsSide target) (hs : IsSide side) (h : target ≤ side) :
    (sideRatio target side).value ≤ 1 := by
  have hone : (Number.ofNat 1).value = 1 := by
    rw [Number.value_ofNat (by decide), Nat.cast_one]
  have hle : (target : ℚ) / side ≤ (Number.ofNat 1).value := by
    rw [hone, div_le_one hs.pos]
    exact_mod_cast h
  rw [sideRatio_eq ht hs, ← hone]
  exact (Number.ofRat_le (div_nonneg ht.pos.le hs.pos.le) hle).2

/-- A side times a ratio is the exact product, rounded. -/
theorem ofNat_mul_eq (hs : IsSide side) (hr : r.IsRatio) :
    .ofNat side * r = ofRat (side * r.value) := by
  have hside := Number.value_ofNat hs.lt
  rw [Number.mul_of_pos (by rw [hside]; exact hs.pos) hr.pos, hside]

/-- So it is near that product. -/
theorem isNear_ofNat_mul (hs : IsSide side) (hr : r.IsRatio) :
    (.ofNat side * r : Number).IsNear (side * r.value) := by
  rw [ofNat_mul_eq hs hr]
  refine Number.isNear_ofRat ?_ ?_
  · calc (1 : ℚ) / 2 ^ 99 ≤ 1 / 2 ^ 33 := by norm_num
      _ ≤ r.value := hr.low
      _ ≤ side * r.value := le_mul_of_one_le_left hr.pos.le hs.one_le
  · calc (side : ℚ) * r.value ≤ 2 ^ 32 * 2 ^ 33 :=
          mul_le_mul hs.le_maxSide hr.high hr.pos.le (by positivity)
      _ ≤ 2 ^ 99 := by norm_num

/-- **A ratio that reaches a target takes its side to the target at least.** Two roundings are lost
on the way, and half a pixel is far more. -/
theorem le_sideOf_mul (hs : IsSide side) (ht : IsSide target) (hr : r.IsRatio)
    (h : (target : ℚ) / side * (1 - 1 / 2 ^ 53) ≤ r.value) :
    target ≤ sideOf (.ofNat side * r) := by
  have hnear := isNear_ofNat_mul hs hr
  have hexact : (target : ℚ) * (1 - 1 / 2 ^ 53) ≤ side * r.value := by
    rw [div_mul_eq_mul_div, div_le_iff₀ hs.pos] at h
    linarith
  have hproduct : (target : ℚ) * (1 - 1 / 2 ^ 53) * (1 - 1 / 2 ^ 53) ≤
      (.ofNat side * r : Number).value :=
    (mul_le_mul_of_nonneg_right hexact (by norm_num)).trans hnear.le
  have hpos := ht.pos
  have hsmall := ht.le_maxSide
  exact le_sideOf ht hnear.finite (by linarith)

/-- **A ratio that does not pass a target takes its side to the target at most.** -/
theorem sideOf_mul_le (hs : IsSide side) (ht : IsSide target) (hr : r.IsRatio)
    (h : r.value ≤ (target : ℚ) / side * (1 + 1 / 2 ^ 53)) :
    sideOf (.ofNat side * r) ≤ target := by
  have hnear := isNear_ofNat_mul hs hr
  have hexact : side * r.value ≤ (target : ℚ) * (1 + 1 / 2 ^ 53) := by
    rw [div_mul_eq_mul_div, le_div_iff₀ hs.pos] at h
    linarith
  have hproduct : (.ofNat side * r : Number).value ≤
      (target : ℚ) * (1 + 1 / 2 ^ 53) * (1 + 1 / 2 ^ 53) :=
    hnear.ge.trans (mul_le_mul_of_nonneg_right hexact (by norm_num))
  have hvalue : 0 ≤ (.ofNat side * r : Number).value := by
    have hlow := hnear.le
    have hmul : 0 < (side : ℚ) * r.value := mul_pos hs.pos hr.pos
    linarith
  have hpos := ht.pos
  have hsmall := ht.le_maxSide
  exact sideOf_le ht hnear.finite (by linarith) hvalue

/-- **A ratio made for a target takes its side there exactly.** -/
theorem sideOf_mul_sideRatio (hs : IsSide side) (ht : IsSide target) :
    sideOf (.ofNat side * sideRatio target side) = target := by
  have hnear := isNear_sideRatio ht hs
  have hratio := isRatio_sideRatio ht hs
  exact Nat.le_antisymm (sideOf_mul_le hs ht hratio hnear.ge) (le_sideOf_mul hs ht hratio hnear.le)

/-- A ratio of at most one makes no side larger. -/
theorem sideOf_mul_le_self (hs : IsSide side) (hr : r.IsRatio) (h : r.value ≤ 1) :
    sideOf (.ofNat side * r) ≤ side := by
  refine sideOf_mul_le hs hs hr (h.trans ?_)
  rw [div_self hs.pos.ne', one_mul]
  norm_num

/-- A ratio of at least one makes no side smaller. -/
theorem self_le_sideOf_mul (hs : IsSide side) (hr : r.IsRatio) (h : 1 ≤ r.value) :
    side ≤ sideOf (.ofNat side * r) := by
  refine le_sideOf_mul hs hs hr (le_trans ?_ h)
  rw [div_self hs.pos.ne', one_mul]
  norm_num

end Ratios

/-! ## (3) The smaller and the larger of two -/

namespace Number

variable {a b : Number}

theorem isNaN_of_isFinite (ha : a.isFinite = true) : a.isNaN = false := by
  cases a with
  | nan => cases ha
  | _ => rfl

/-- The larger of two ratios is one of them. -/
theorem greater_cases (ha : a.isFinite = true) (hb : b.isFinite = true) :
    (a.greater b = a ∧ b.value ≤ a.value) ∨ (a.greater b = b ∧ a.value ≤ b.value) := by
  simp only [greater, isNaN_of_isFinite ha, isNaN_of_isFinite hb, Bool.false_eq_true, if_false]
  by_cases hlt : a < b
  · exact .inr ⟨if_pos hlt, ((lt_iff_value_lt ha hb).1 hlt).le⟩
  · exact .inl ⟨if_neg hlt, not_lt.1 (mt (lt_iff_value_lt ha hb).2 hlt)⟩

/-- The smaller of two ratios is one of them. -/
theorem lesser_cases (ha : a.isFinite = true) (hb : b.isFinite = true) :
    (a.lesser b = a ∧ a.value ≤ b.value) ∨ (a.lesser b = b ∧ b.value ≤ a.value) := by
  simp only [lesser, isNaN_of_isFinite ha, isNaN_of_isFinite hb, Bool.false_eq_true, if_false]
  by_cases hlt : b < a
  · exact .inr ⟨if_pos hlt, ((lt_iff_value_lt hb ha).1 hlt).le⟩
  · exact .inl ⟨if_neg hlt, not_lt.1 (mt (lt_iff_value_lt hb ha).2 hlt)⟩

/-- An infinite ratio is not the smaller one. -/
theorem infinite_lesser (hb : b.isFinite = true) : (infinite false).lesser b = b := by
  cases b with
  | nan => cases hb
  | infinite s => cases hb
  | finite => rfl

theorem lesser_infinite (ha : a.isFinite = true) : a.lesser (.infinite false) = a := by
  cases a with
  | nan => cases ha
  | infinite s => cases ha
  | finite => rfl

end Number

/-! ## (4) Covers and fits -/

section Sizes

variable {width height w h : Nat}

/-- A cover is a picture times one of the two ratios that its box asks for, the larger one. -/
theorem exists_coverDimensions_eq (hwidth : IsSide width) (hheight : IsSide height) (hw : IsSide w)
    (hh : IsSide h) :
    ∃ r : Number, r.IsRatio ∧
      (r = sideRatio w width ∧ (sideRatio h height).value ≤ r.value ∨
        r = sideRatio h height ∧ (sideRatio w width).value ≤ r.value) ∧
      coverDimensions width height w h
        = (sideOf (.ofNat width * r), sideOf (.ofNat height * r)) := by
  have hacross := isRatio_sideRatio hw hwidth
  have hdown := isRatio_sideRatio hh hheight
  rcases Number.greater_cases hacross.finite hdown.finite with ⟨heq, hle⟩ | ⟨heq, hle⟩
  · exact ⟨_, hacross, .inl ⟨rfl, hle⟩, by simp only [coverDimensions, heq]⟩
  · exact ⟨_, hdown, .inr ⟨rfl, hle⟩, by simp only [coverDimensions, heq]⟩

/-- **A cover has one of the asked sides, and reaches over the other one.** -/
theorem coverDimensions_cases (hwidth : IsSide width) (hheight : IsSide height) (hw : IsSide w)
    (hh : IsSide h) :
    ((coverDimensions width height w h).1 = w ∧ h ≤ (coverDimensions width height w h).2) ∨
      (w ≤ (coverDimensions width height w h).1 ∧ (coverDimensions width height w h).2 = h) := by
  have hacross := isNear_sideRatio hw hwidth
  have hdown := isNear_sideRatio hh hheight
  obtain ⟨r, hr, ⟨rfl, hle⟩ | ⟨rfl, hle⟩, heq⟩ :=
    exists_coverDimensions_eq hwidth hheight hw hh
  · rw [heq]
    exact .inl ⟨sideOf_mul_sideRatio hwidth hw, le_sideOf_mul hheight hh hr (hdown.le.trans hle)⟩
  · rw [heq]
    exact .inr ⟨le_sideOf_mul hwidth hw hr (hacross.le.trans hle), sideOf_mul_sideRatio hheight hh⟩

/-- **No cover makes one side smaller and enlarges the other one**: its width is no smaller, or its
height is no larger. -/
theorem coverDimensions_oneWay (hwidth : IsSide width) (hheight : IsSide height) (hw : IsSide w)
    (hh : IsSide h) :
    width ≤ (coverDimensions width height w h).1 ∨
      (coverDimensions width height w h).2 ≤ height := by
  obtain ⟨r, hr, -, heq⟩ := exists_coverDimensions_eq hwidth hheight hw hh
  rw [heq]
  by_cases hone : r.value ≤ 1
  · exact .inr (sideOf_mul_le_self hheight hr hone)
  · exact .inl (self_le_sideOf_mul hwidth hr (le_of_not_ge hone))

/-- **A cover that enlarges nothing stays within the picture.** -/
theorem coverDimensions_le (hwidth : IsSide width) (hheight : IsSide height) (hw : IsSide w)
    (hh : IsSide h) (hsmallw : w ≤ width) (hsmallh : h ≤ height) :
    (coverDimensions width height w h).1 ≤ width ∧
      (coverDimensions width height w h).2 ≤ height := by
  obtain ⟨r, hr, hratio, heq⟩ := exists_coverDimensions_eq hwidth hheight hw hh
  have hone : r.value ≤ 1 := by
    rcases hratio with ⟨rfl, -⟩ | ⟨rfl, -⟩
    · exact value_sideRatio_le_one hw hwidth hsmallw
    · exact value_sideRatio_le_one hh hheight hsmallh
  rw [heq]
  exact ⟨sideOf_mul_le_self hwidth hr hone, sideOf_mul_le_self hheight hr hone⟩

/-- A fit is a picture times one of the two ratios that its box asks for, the smaller one. -/
theorem exists_fitDimensions_eq (hwidth : IsSide width) (hheight : IsSide height) (hw : IsSide w)
    (hh : IsSide h) :
    ∃ r : Number, r.IsRatio ∧
      (r = sideRatio w width ∧ r.value ≤ (sideRatio h height).value ∨
        r = sideRatio h height ∧ r.value ≤ (sideRatio w width).value) ∧
      fitDimensions width height w h
        = (sideOf (.ofNat width * r), sideOf (.ofNat height * r)) := by
  have hacross := isRatio_sideRatio hw hwidth
  have hdown := isRatio_sideRatio hh hheight
  rcases Number.lesser_cases hacross.finite hdown.finite with ⟨heq, hle⟩ | ⟨heq, hle⟩
  · exact ⟨_, hacross, .inl ⟨rfl, hle⟩, by simp only [fitDimensions, heq]⟩
  · exact ⟨_, hdown, .inr ⟨rfl, hle⟩, by simp only [fitDimensions, heq]⟩

/-- **A fit has one of the asked sides, and does not pass the other one.** -/
theorem fitDimensions_cases (hwidth : IsSide width) (hheight : IsSide height) (hw : IsSide w)
    (hh : IsSide h) :
    ((fitDimensions width height w h).1 = w ∧ (fitDimensions width height w h).2 ≤ h) ∨
      ((fitDimensions width height w h).1 ≤ w ∧ (fitDimensions width height w h).2 = h) := by
  have hacross := isNear_sideRatio hw hwidth
  have hdown := isNear_sideRatio hh hheight
  obtain ⟨r, hr, ⟨rfl, hle⟩ | ⟨rfl, hle⟩, heq⟩ := exists_fitDimensions_eq hwidth hheight hw hh
  · rw [heq]
    exact .inl ⟨sideOf_mul_sideRatio hwidth hw, sideOf_mul_le hheight hh hr (hle.trans hdown.ge)⟩
  · rw [heq]
    exact .inr ⟨sideOf_mul_le hwidth hw hr (hle.trans hacross.ge), sideOf_mul_sideRatio hheight hh⟩

/-- The ratio to a side without pixels is infinite. -/
theorem sideRatio_zero (hw : IsSide w) : sideRatio w 0 = .infinite false := by
  obtain ⟨m, q, hm, heq, hpos⟩ :=
    Number.finite_of_value_pos (by rw [Number.value_ofNat hw.lt]; exact hw.pos)
  have hdiv : (.finite false m q hm / .zero false : Number)
      = if m = 0 then .nan else .infinite false := rfl
  rw [sideRatio, heq, Number.ofNat, Number.ofRatio_zero, hdiv, if_neg hpos.ne']

/-- No ratio gives pixels to a side without any, so it becomes one pixel. -/
theorem sideOf_zero_mul (r : Number) : sideOf (.ofNat 0 * r) = 1 := by
  rw [Number.ofNat, Number.ofRatio_zero]
  cases r with
  | nan => rfl
  | infinite s => rfl
  | finite s m q hm =>
    have hmul : (.zero false * .finite s m q hm : Number)
        = .ofScaled (false ^^ s) (0 * m) (-1074 + q) := rfl
    rw [hmul, Nat.zero_mul, Number.ofScaled, Nat.zero_mul, Number.ofRatio_zero]
    cases s <;> decide +kernel

/-- **A fit of a picture without columns or without rows** has the side that its other side asks
for, and one pixel across. -/
theorem fitDimensions_zero (hw : IsSide w) (hh : IsSide h) :
    (∀ {height}, IsSide height → fitDimensions 0 height w h = (1, h)) ∧
      (∀ {width}, IsSide width → fitDimensions width 0 w h = (w, 1)) ∧
      fitDimensions 0 0 w h = (1, 1) := by
  refine ⟨fun {height} hheight => ?_, fun {width} hwidth => ?_, ?_⟩
  · simp only [fitDimensions, sideRatio_zero hw,
      Number.infinite_lesser (isRatio_sideRatio hh hheight).finite, sideOf_zero_mul,
      sideOf_mul_sideRatio hheight hh]
  · simp only [fitDimensions, sideRatio_zero hh,
      Number.lesser_infinite (isRatio_sideRatio hw hwidth).finite, sideOf_zero_mul,
      sideOf_mul_sideRatio hwidth hw]
  · simp only [fitDimensions, sideOf_zero_mul]

/-- **A fit stays in its box**, whatever picture of 32 bits it is made of, **and touches it** unless
the picture has neither columns nor rows. -/
theorem fitDimensions_inside (hwidth : width ≤ maxSide) (hheight : height ≤ maxSide)
    (hw : IsSide w) (hh : IsSide h) :
    (1 ≤ (fitDimensions width height w h).1 ∧ (fitDimensions width height w h).1 ≤ w) ∧
    (1 ≤ (fitDimensions width height w h).2 ∧ (fitDimensions width height w h).2 ≤ h) ∧
    (0 < width ∨ 0 < height →
      (fitDimensions width height w h).1 = w ∨ (fitDimensions width height w h).2 = h) := by
  obtain ⟨hcolumns, hrows, hnone⟩ := fitDimensions_zero hw hh
  rcases Nat.eq_zero_or_pos width with rfl | hpos <;>
    rcases Nat.eq_zero_or_pos height with rfl | hpos'
  · rw [hnone]
    exact ⟨⟨le_rfl, hw.1⟩, ⟨le_rfl, hh.1⟩, fun hsome => by omega⟩
  · rw [hcolumns ⟨hpos', hheight⟩]
    exact ⟨⟨le_rfl, hw.1⟩, ⟨hh.1, le_rfl⟩, fun _ => .inr rfl⟩
  · rw [hrows ⟨hpos, hwidth⟩]
    exact ⟨⟨hw.1, le_rfl⟩, ⟨le_rfl, hh.1⟩, fun _ => .inl rfl⟩
  · refine ⟨⟨(isSide_sideOf _).1, ?_⟩, ⟨(isSide_sideOf _).1, ?_⟩, fun _ => ?_⟩ <;>
      rcases fitDimensions_cases ⟨hpos, hwidth⟩ ⟨hpos', hheight⟩ hw hh with ⟨h₁, h₂⟩ | ⟨h₁, h₂⟩
    all_goals omega

/-- **A picture fits its own box as it is.** -/
theorem fitDimensions_self (hwidth : IsSide width) (hheight : IsSide height) :
    fitDimensions width height width height = (width, height) := by
  have hself : sideRatio height height = sideRatio width width := by
    rw [sideRatio_eq hheight hheight, sideRatio_eq hwidth hwidth, div_self hheight.pos.ne',
      div_self hwidth.pos.ne']
  have hsame : ∀ r : Number, r.lesser r = r := by
    intro r
    simp only [Number.lesser, ite_self]
  simp only [fitDimensions, hself, hsame, Prod.mk.injEq]
  refine ⟨sideOf_mul_sideRatio hwidth hwidth, ?_⟩
  rw [← hself]
  exact sideOf_mul_sideRatio hheight hheight

end Sizes

end MediaTransform
