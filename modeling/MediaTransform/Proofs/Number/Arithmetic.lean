import Mathlib.Algebra.Order.Floor.Semifield
import MediaTransform.Number.Arithmetic
import MediaTransform.Proofs.Number.Value

/-! # Arithmetic on values

Each operation is the exact one on the values, rounded once; small naturals are numbers, and so are
the integers that numbers are rounded to:

* **`Number.mul_of_pos`**, **`div_of_pos`**, **`sub_of_lt`** — products and quotients of positive
  numbers, and positive differences, which stay finite and positive (`sub_pos_of_lt`).
* **`Number.value_ofNat`** — naturals of 53 bits.
* **`Number.toNatUpTo_round`** — the nearest integer of a number, as a natural.
* **`roundAway`** — the nearest integer of a rational, a half going away from zero;
  `Number.value_round` says that numbers are rounded so. -/

namespace MediaTransform

namespace Number

/-! ## (1) Operations -/

section Arithmetic

variable {a b : Number}

/-- A number with a positive value has a positive sign. -/
theorem finite_of_value_pos {x : Number} (h : 0 < x.value) :
    ∃ m q hm, x = .finite false m q hm ∧ 0 < m := by
  cases x with
  | finite s m q hm =>
    have hpow : (0 : ℚ) < 2 ^ q := by positivity
    have hsigned : (0 : ℚ) < signed s m := (mul_pos_iff_of_pos_right hpow).1 h
    cases s with
    | false =>
      rw [signed_false, Int.cast_natCast, Nat.cast_pos] at hsigned
      exact ⟨m, q, hm, rfl, hsigned⟩
    | true =>
      rw [signed_true, Int.cast_neg, Int.cast_natCast, neg_pos] at hsigned
      exact absurd hsigned (not_lt.2 (Nat.cast_nonneg m))
  | _ => exact absurd h (lt_irrefl 0)

/-- **The product is the exact one, rounded.** -/
theorem mul_of_pos (ha : 0 < a.value) (hb : 0 < b.value) : a * b = ofRat (a.value * b.value) := by
  obtain ⟨m, q, hm, rfl, -⟩ := finite_of_value_pos ha
  obtain ⟨n, r, hn, rfl, -⟩ := finite_of_value_pos hb
  show ofScaled false (m * n) (q + r) = _
  rw [ofScaled_eq_ofRat, zpow_add₀ two_ne_zero]
  congr 1
  simp only [value, signed_false]
  push_cast
  ring

/-- **The quotient is the exact one, rounded.** -/
theorem div_of_pos (ha : 0 < a.value) (hb : 0 < b.value) : a / b = ofRat (a.value / b.value) := by
  obtain ⟨m, q, hm, rfl, -⟩ := finite_of_value_pos ha
  obtain ⟨n, r, hn, rfl, hpos⟩ := finite_of_value_pos hb
  have hdiv : (.finite false m q hm / .finite false n r hn : Number)
      = ofRatio false (m * 2 ^ (q - r).toNat) (n * 2 ^ (r - q).toNat) := if_neg hpos.ne'
  rw [hdiv, ofRatio_eq_ofRat _ (by positivity)]
  congr 1
  simp only [value, signed_false, Int.cast_natCast]
  push_cast
  -- both sides brought to the smaller exponent
  rw [← two_pow_mul_zpow_min q r, ← two_pow_mul_zpow_min r q, min_comm r q, ← mul_assoc,
    ← mul_assoc, mul_div_mul_right _ _ (by positivity)]

/-- **The difference is the exact one, rounded**, where it is positive. -/
theorem sub_of_lt (ha : a.isFinite = true) (hb : b.isFinite = true) (h : b.value < a.value) :
    a - b = ofRat (a.value - b.value) := by
  cases a with
  | nan => cases ha
  | infinite s => cases ha
  | finite s m q hm =>
    cases b with
    | nan => cases hb
    | infinite t => cases hb
    | finite t n r hn =>
      have hneg : signed (!t) n = -signed t n := by cases t <;> simp
      have hsub : (.finite s m q hm - .finite t n r hn : Number)
          = if signed s m * 2 ^ (q - r).toNat + signed (!t) n * 2 ^ (r - q).toNat = 0
            then zero (s && !t)
            else ofScaled
              (signed s m * 2 ^ (q - r).toNat + signed (!t) n * 2 ^ (r - q).toNat < 0)
              (signed s m * 2 ^ (q - r).toNat + signed (!t) n * 2 ^ (r - q).toNat).natAbs
              (min q r) := rfl
      have htotal : ((signed s m * 2 ^ (q - r).toNat + signed (!t) n * 2 ^ (r - q).toNat : Int) : ℚ)
          * 2 ^ min q r = signed s m * 2 ^ q - signed t n * 2 ^ r := by
        rw [hneg]
        push_cast
        rw [← two_pow_mul_zpow_min q r, ← two_pow_mul_zpow_min r q, min_comm r q]
        ring
      simp only [value] at h ⊢
      rw [hsub]
      generalize signed s m * 2 ^ (q - r).toNat + signed (!t) n * 2 ^ (r - q).toNat = total at *
      have hpos : 0 < total := by
        have hmul : (0 : ℚ) < total * 2 ^ min q r := htotal ▸ sub_pos.2 h
        exact_mod_cast (mul_pos_iff_of_pos_right (by positivity)).1 hmul
      have habs : ((total.natAbs : Nat) : ℚ) = (total : ℚ) := by
        rw [← Int.cast_natCast, Int.natAbs_of_nonneg hpos.le]
      rw [if_neg hpos.ne', decide_eq_false (not_lt.2 hpos.le), ofScaled_eq_ofRat, habs, htotal]

/-- All values are integers in units of the least exponent. -/
theorem exists_least_units {x : Number} (hx : x.isFinite = true) :
    ∃ i : Int, x.value = i * 2 ^ (-1074 : Int) := by
  cases x with
  | nan => cases hx
  | infinite s => cases hx
  | finite s m q hm =>
    refine ⟨signed s m * 2 ^ (q + 1074).toNat, ?_⟩
    have hq : -1074 ≤ q := hm.2.1
    rw [value, Int.cast_mul, Int.cast_pow, Int.cast_ofNat, mul_assoc, ← zpow_natCast,
      ← zpow_add₀ two_ne_zero]
    congr 2
    omega

/-- The least positive number. -/
def leastPositive : Number := .finite false 1 (-1074) (by decide)

theorem value_leastPositive : leastPositive.value = 2 ^ (-1074 : Int) := by
  rw [leastPositive, value, signed_false, Nat.cast_one, Int.cast_one, one_mul]

/-- Different values are apart by the least positive number at least. -/
theorem value_leastPositive_le_sub (ha : a.isFinite = true) (hb : b.isFinite = true)
    (h : b.value < a.value) : leastPositive.value ≤ a.value - b.value := by
  obtain ⟨i, hi⟩ := exists_least_units ha
  obtain ⟨j, hj⟩ := exists_least_units hb
  have hunit : (0 : ℚ) < 2 ^ (-1074 : Int) := by positivity
  rw [hi, hj] at h
  have hij : j < i := by exact_mod_cast lt_of_mul_lt_mul_right h hunit.le
  have hone : (1 : ℚ) ≤ (i - j : Int) := by exact_mod_cast (by omega : 1 ≤ i - j)
  rw [value_leastPositive, hi, hj, ← sub_mul]
  calc (2 : ℚ) ^ (-1074 : Int) = 1 * 2 ^ (-1074 : Int) := (one_mul _).symm
    _ ≤ ((i - j : Int) : ℚ) * 2 ^ (-1074 : Int) := mul_le_mul_of_nonneg_right hone hunit.le
    _ = (i - j) * 2 ^ (-1074 : Int) := by rw [Int.cast_sub]

/-- **A positive difference stays finite and positive**: it is not above the first number, and not
below the least one. -/
theorem sub_pos_of_lt (ha : a.isFinite = true) (hb : b.isFinite = true) (hnonneg : 0 ≤ b.value)
    (h : b.value < a.value) : (a - b).isFinite = true ∧ 0 < (a - b).value := by
  have hpos : 0 < leastPositive.value := by
    rw [value_leastPositive]
    positivity
  rw [sub_of_lt ha hb h]
  have hfinite := (ofRat_le (x := a) (sub_nonneg.2 h.le) (sub_le_self _ hnonneg)).1
  exact ⟨hfinite,
    hpos.trans_le (le_ofRat hpos.le (value_leastPositive_le_sub ha hb h) hfinite)⟩

end Arithmetic

/-! ## (2) Naturals -/

/-- A natural of 53 bits has a canonical form, also when it is scaled by a power of two. -/
theorem exists_canonical_mul_zpow {n : Nat} {e : Int} (h : n < 2 ^ 53) (hleast : -1022 ≤ e)
    (hmost : e ≤ 971) : ∃ m q, Canonical m q ∧ (n : ℚ) * 2 ^ e = m * 2 ^ q := by
  rcases Nat.eq_zero_or_pos n with rfl | hpos
  · exact ⟨0, -1074, by decide, by simp⟩
  · have hlog : n.log2 ≤ 52 := by
      have := (Nat.log2_lt hpos.ne').2 h
      omega
    have hexp : 2 ^ 52 = 2 ^ n.log2 * 2 ^ (52 - n.log2) := by
      rw [← pow_add]
      congr 1
      omega
    have hlow := Nat.mul_le_mul_right (2 ^ (52 - n.log2)) (Nat.log2_self_le hpos.ne')
    have hhigh := Nat.mul_lt_mul_of_pos_right (@Nat.lt_log2_self n)
      (by positivity : 0 < 2 ^ (52 - n.log2))
    rw [pow_succ, Nat.mul_right_comm, ← hexp] at hhigh
    rw [← hexp] at hlow
    refine ⟨n * 2 ^ (52 - n.log2), (n.log2 : Int) - 52 + e,
      ⟨by omega, by omega, by omega, .inl hlow⟩, ?_⟩
    push_cast
    rw [mul_assoc, ← zpow_natCast, ← zpow_add₀ two_ne_zero]
    congr 2
    omega

theorem exists_canonical_natCast {n : Nat} (h : n < 2 ^ 53) :
    ∃ m q, Canonical m q ∧ (n : ℚ) = m * 2 ^ q := by
  obtain ⟨m, q, hm, hn⟩ := exists_canonical_mul_zpow (e := 0) h (by decide) (by decide)
  exact ⟨m, q, hm, by rwa [zpow_zero, mul_one] at hn⟩

/-- **A natural of 53 bits is a number.** -/
theorem ofRatio_natCast (negative : Bool) {n : Nat} (h : n < 2 ^ 53) :
    ∃ m q hm, ofRatio negative n 1 = .finite negative m q hm ∧ (m : ℚ) * 2 ^ q = n := by
  obtain ⟨m, q, hm, hn⟩ := exists_canonical_natCast h
  exact ⟨m, q, hm, ofRatio_exact negative hm one_pos (by rw [Nat.cast_one, div_one, hn]), hn.symm⟩

theorem isFinite_ofNat {n : Nat} (h : n < 2 ^ 53) : (ofNat n).isFinite = true := by
  obtain ⟨m, q, hm, hn, -⟩ := ofRatio_natCast false h
  rw [ofNat, hn]
  rfl

theorem value_ofNat {n : Nat} (h : n < 2 ^ 53) : (ofNat n).value = n := by
  obtain ⟨m, q, hm, hn, hvalue⟩ := ofRatio_natCast false h
  rw [ofNat, hn, ← hvalue]
  rfl

section Integers

variable {x : Number} {n : Nat}

/-- **The integer part of a number** that is not negative. -/
theorem toNatUpTo_of_nonneg (limit : Nat) (hx : x.isFinite = true) (h : 0 ≤ x.value) :
    x.toNatUpTo limit = min limit ⌊x.value⌋₊ := by
  cases x with
  | nan => cases hx
  | infinite s => cases hx
  | finite s m q hm =>
    cases s with
    | false =>
      have hfloor : ⌊(m : ℚ) * 2 ^ q⌋₊ = m * 2 ^ q.toNat / 2 ^ (-q).toNat := by
        rw [zpow_eq_div_pow two_ne_zero, ← mul_div_assoc]
        exact_mod_cast Nat.floor_div_eq_div (K := ℚ) (m * 2 ^ q.toNat) (2 ^ (-q).toNat)
      simp only [toNatUpTo, value, signed_false, Int.cast_natCast, hfloor,
        if_neg Bool.false_ne_true]
    | true =>
      have hneg : -(m : ℚ) * 2 ^ q ≤ 0 := by
        rw [neg_mul]
        exact neg_nonpos.2 (by positivity)
      have hfloor : ⌊((signed true m : Int) : ℚ) * 2 ^ q⌋₊ = 0 := by
        rw [signed_true, Int.cast_neg, Int.cast_natCast]
        exact Nat.floor_of_nonpos hneg
      simp only [toNatUpTo, value, hfloor, if_true, Nat.min_zero]

/-- The nearest natural of a quotient, a half going up. -/
theorem nearestUp_eq_floor (num : Nat) {den : Nat} (hd : 0 < den) :
    nearestUp num den = ⌊(num : ℚ) / den + 1 / 2⌋₊ := by
  have hdq : (den : ℚ) ≠ 0 := by exact_mod_cast hd.ne'
  have hsum : (num : ℚ) / den + 1 / 2 = ((2 * num + den : Nat) : ℚ) / (2 * den : Nat) := by
    push_cast
    field_simp
  rw [hsum, Nat.floor_div_eq_div, nearestUp]

/-- **Rounding to an integer**, of a number that is not negative: a half goes up. -/
theorem round_of_nonneg (hx : x.isFinite = true) (h : 0 ≤ x.value) :
    x.round.isFinite = true ∧ x.round.value = ⌊x.value + 1 / 2⌋₊ := by
  cases x with
  | nan => cases hx
  | infinite s => cases hx
  | finite s m q hm =>
    obtain ⟨hvalue, hsign⟩ := value_of_nonneg h
    by_cases hq : 0 ≤ q
    · -- an integer already
      rw [round, if_pos hq, hvalue]
      have hnat : (m : ℚ) * 2 ^ q = ((m * 2 ^ q.toNat : Nat) : ℚ) := by
        push_cast
        rw [← zpow_natCast, Int.toNat_of_nonneg hq]
      have hfloor : ⌊((m * 2 ^ q.toNat : Nat) : ℚ) + 1 / 2⌋₊ = m * 2 ^ q.toNat := by
        rw [Nat.floor_eq_iff (by positivity)]
        constructor <;> linarith
      rw [hnat, hfloor]
      exact ⟨rfl, rfl⟩
    · have hden : 0 < 2 ^ (-q).toNat := by positivity
      have hfloor : nearestUp m (2 ^ (-q).toNat) = ⌊(m : ℚ) * 2 ^ q + 1 / 2⌋₊ := by
        rw [nearestUp_eq_floor m hden, zpow_eq_div_pow two_ne_zero q,
          Int.toNat_of_nonpos (not_le.1 hq).le, pow_zero, mul_one_div]
        push_cast
        rfl
      have hsmall : nearestUp m (2 ^ (-q).toNat) < 2 ^ 53 := by
        have hbits : m < 2 ^ 53 := hm.1
        exact Nat.div_lt_of_lt_mul (by omega)
      obtain ⟨m', q', hm', hround, hn⟩ := ofRatio_natCast s hsmall
      rw [round, if_neg hq, hround, hvalue, ← hfloor, ← hn]
      refine ⟨rfl, ?_⟩
      cases s with
      | false => rfl
      | true =>
        -- a negative zero stays one
        have hzero : (m' : ℚ) * 2 ^ q' = 0 := by
          rw [hn, hsign rfl, nearestUp, Nat.mul_zero, Nat.zero_add, Nat.div_eq_of_lt (by omega),
            Nat.cast_zero]
        rw [value, signed_true, Int.cast_neg, Int.cast_natCast, neg_mul, hzero, neg_zero]

/-- A negative integer counts as none. -/
theorem toNatUpTo_ofRatio_true (limit num den : Nat) :
    (ofRatio true num den).toNatUpTo limit = 0 := by
  unfold ofRatio
  dsimp only
  split
  · rfl
  · split
    · rfl
    · split <;> rfl

/-- **The nearest integer of a number as a natural**, held under a limit: none where the number is
negative. -/
theorem toNatUpTo_round (limit : Nat) (hx : x.isFinite = true) :
    x.round.toNatUpTo limit = min limit ⌊x.value + 1 / 2⌋₊ := by
  by_cases h : 0 ≤ x.value
  · obtain ⟨hfinite, hvalue⟩ := round_of_nonneg hx h
    rw [toNatUpTo_of_nonneg limit hfinite (hvalue ▸ Nat.cast_nonneg _), hvalue, Nat.floor_natCast]
  · have hfloor : ⌊x.value + 1 / 2⌋₊ = 0 := by
      rw [Nat.floor_eq_zero]
      linarith
    rw [hfloor, Nat.min_zero]
    cases x with
    | nan => cases hx
    | infinite s => cases hx
    | finite s m q hm =>
      cases s with
      | true =>
        rw [round]
        split
        · rfl
        · exact toNatUpTo_ofRatio_true _ _ _
      | false =>
        refine absurd ?_ h
        rw [value, signed_false]
        positivity

end Integers

end Number

/-! ## (3) Rounding -/

/-- **The nearest integer**, a half going away from zero. -/
def roundAway (v : ℚ) : ℤ := if 0 ≤ v then ⌊v + 1 / 2⌋ else ⌈v - 1 / 2⌉

theorem roundAway_of_nonneg {v : ℚ} (h : 0 ≤ v) : roundAway v = ⌊v + 1 / 2⌋ := if_pos h

/-- Rounding is the same below zero as above. -/
theorem roundAway_neg (v : ℚ) : roundAway (-v) = -roundAway v := by
  rcases lt_trichotomy v 0 with h | rfl | h
  · rw [roundAway, roundAway, if_pos (by linarith), if_neg (by linarith), ← Int.floor_neg]
    congr 1
    ring
  · norm_num [roundAway]
  · rw [roundAway, roundAway, if_neg (by linarith), if_pos h.le, ← Int.ceil_neg]
    congr 1
    ring

/-- What is rounded to a positive natural is not negative. -/
theorem floor_eq_of_roundAway {v : ℚ} {n : Nat} (h : roundAway v = n) (hn : 1 ≤ n) :
    ⌊v + 1 / 2⌋₊ = n := by
  have hv : 0 ≤ v := by
    by_contra hneg
    rw [roundAway, if_neg hneg] at h
    have hle : ⌈v - 1 / 2⌉ ≤ 0 := Int.ceil_le.2 (by push_cast; linarith)
    omega
  rw [roundAway_of_nonneg hv] at h
  rw [← Int.floor_toNat, h, Int.toNat_natCast]

namespace Number

variable {x : Number} {low limit : Nat}

theorem toNatUpTo_le (limit : Nat) (x : Number) : x.toNatUpTo limit ≤ limit := by
  cases x with
  | nan => exact Nat.zero_le limit
  | infinite s => cases s <;> simp [toNatUpTo]
  | finite s m q h => cases s <;> simp [toNatUpTo]

@[simp] theorem isFinite_neg (x : Number) : (-x).isFinite = x.isFinite := by
  cases x <;> rfl

@[simp] theorem value_neg (x : Number) : (-x).value = -x.value := by
  cases x with
  | nan => exact neg_zero.symm
  | infinite s => exact neg_zero.symm
  | finite s m q h =>
    show ((signed (!s) m : Int) : ℚ) * 2 ^ q = -((signed s m : Int) * 2 ^ q)
    cases s <;> simp

/-- The opposite of a quotient is rounded to the opposite number. -/
theorem ofRatio_not (negative : Bool) (num den : Nat) :
    ofRatio (!negative) num den = -ofRatio negative num den := by
  unfold ofRatio
  dsimp only
  split
  · rfl
  · split
    · rfl
    · split <;> rfl

/-- The opposite number is rounded to the opposite integer. -/
theorem round_neg (x : Number) : (-x).round = -x.round := by
  cases x with
  | nan => rfl
  | infinite s => rfl
  | finite s m q h =>
    show (if 0 ≤ q then .finite (!s) m q h else ofRatio (!s) (nearestUp m (2 ^ (-q).toNat)) 1)
      = -(finite s m q h).round
    rw [ofRatio_not, round]
    split <;> rfl

/-- **Numbers are rounded to the nearest integer**, a half going away from zero. -/
theorem value_round (hx : x.isFinite = true) :
    x.round.isFinite = true ∧ x.round.value = roundAway x.value := by
  rcases le_or_gt 0 x.value with h | h
  · obtain ⟨hfinite, hvalue⟩ := round_of_nonneg hx h
    refine ⟨hfinite, ?_⟩
    rw [hvalue, roundAway_of_nonneg h, ← natCast_floor_eq_intCast_floor (by linarith)]
  · -- the opposite number is not negative
    have hneg : 0 ≤ (-x).value := by
      rw [value_neg]
      linarith
    obtain ⟨hfinite, hvalue⟩ := round_of_nonneg (by rwa [isFinite_neg]) hneg
    rw [round_neg] at hfinite hvalue
    rw [isFinite_neg] at hfinite
    refine ⟨hfinite, ?_⟩
    rw [natCast_floor_eq_intCast_floor (by linarith), ← roundAway_of_nonneg hneg, value_neg,
      value_neg, roundAway_neg, Int.cast_neg, neg_inj] at hvalue
    exact hvalue

/-- A rounded number is between two naturals where the integer is. -/
theorem round_inRange_iff (hx : x.isFinite = true) (hlow : low < 2 ^ 53)
    (hlimit : limit < 2 ^ 53) :
    ¬(x.round < .ofNat low ∨ .ofNat limit < x.round) ↔
      (low : ℤ) ≤ roundAway x.value ∧ roundAway x.value ≤ limit := by
  obtain ⟨hfinite, hvalue⟩ := value_round hx
  rw [not_or, not_lt_iff_le hfinite (isFinite_ofNat hlow),
    not_lt_iff_le (isFinite_ofNat hlimit) hfinite,
    le_iff_value_le (isFinite_ofNat hlow) hfinite, le_iff_value_le hfinite (isFinite_ofNat hlimit),
    value_ofNat hlow, value_ofNat hlimit, hvalue]
  exact_mod_cast Iff.rfl

/-- A rounded number in range is that natural. -/
theorem toNatUpTo_round_eq (limit : Nat) (hx : x.isFinite = true) (h : 0 ≤ roundAway x.value)
    (hle : roundAway x.value ≤ limit) :
    ((x.round.toNatUpTo limit : Nat) : ℤ) = roundAway x.value := by
  obtain ⟨hfinite, hvalue⟩ := value_round hx
  obtain ⟨n, hn⟩ := Int.eq_ofNat_of_zero_le h
  rw [hn] at hvalue hle ⊢
  rw [toNatUpTo_of_nonneg limit hfinite (by rw [hvalue]; positivity), hvalue, Int.cast_natCast,
    Nat.floor_natCast]
  omega

end Number

end MediaTransform
