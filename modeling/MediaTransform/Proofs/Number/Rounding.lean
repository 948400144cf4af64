import Mathlib.Algebra.Order.Field.Power
import Mathlib.Data.Int.Log
import Mathlib.Data.Rat.Floor
import Mathlib.Tactic.FieldSimp
import Mathlib.Tactic.Linarith
import Mathlib.Tactic.Positivity
import Mathlib.Tactic.Ring
import MediaTransform.Number.Basic

/-! # Rounding a quotient, read over the rationals

The rounding functions work on naturals; here they are tied to the rational value of the quotient:

* **`Number.lastPlaceIn_eq`** — the last place is fixed by the binary logarithm of the value.
* **`Number.ofRatio_congr`** — quotients of one value round to one number.
* **`Number.ofRatio_exact`** — a value that is a number rounds to that number. -/

namespace MediaTransform

namespace Number

/-! ## (1) Powers with integer exponents -/

/-- A power with an integer exponent as a quotient of two with natural ones. -/
theorem zpow_eq_div_pow {b : ℚ} (hb : b ≠ 0) (e : Int) : b ^ e = b ^ e.toNat / b ^ (-e).toNat := by
  rw [← zpow_natCast, ← zpow_natCast, ← zpow_sub₀ hb]
  congr 1
  omega

/-- A power of two is compared with a quotient by integers only. -/
theorem isBelowPower_iff {num den : Nat} {e : Int} (hd : 0 < den) :
    isBelowPower num den e = true ↔ (num : ℚ) / den < 2 ^ e := by
  have hdq : (0 : ℚ) < den := by exact_mod_cast hd
  have hpow : (0 : ℚ) < 2 ^ (-e).toNat := by positivity
  rw [isBelowPower, decide_eq_true_iff, zpow_eq_div_pow two_ne_zero, div_lt_div_iff₀ hdq hpow,
    mul_comm ((2 : ℚ) ^ e.toNat)]
  exact_mod_cast Iff.rfl

/-! ## (2) The last place -/

/-- The two logarithms of a quotient's terms fix the logarithm of its value up to one. -/
theorem log_div_bounds {num den : Nat} (hn : 0 < num) (hd : 0 < den) :
    (num.log2 : Int) - den.log2 - 1 ≤ Int.log 2 ((num : ℚ) / den) ∧
      Int.log 2 ((num : ℚ) / den) ≤ (num.log2 : Int) - den.log2 := by
  have hdq : (0 : ℚ) < den := by exact_mod_cast hd
  have hv : (0 : ℚ) < (num : ℚ) / den := div_pos (by exact_mod_cast hn) hdq
  have hnlow : (2 : ℚ) ^ (num.log2 : Int) ≤ num := by
    rw [zpow_natCast]
    exact_mod_cast Nat.log2_self_le hn.ne'
  have hnhigh : (num : ℚ) < 2 ^ ((num.log2 : Int) + 1) := by
    have hlt := @Nat.lt_log2_self num
    rw [show ((num.log2 : Int) + 1) = ((num.log2 + 1 : Nat) : Int) by push_cast; ring, zpow_natCast]
    exact_mod_cast hlt
  have hdlow : (2 : ℚ) ^ (den.log2 : Int) ≤ den := by
    rw [zpow_natCast]
    exact_mod_cast Nat.log2_self_le hd.ne'
  have hdhigh : (den : ℚ) < 2 ^ ((den.log2 : Int) + 1) := by
    have hlt := @Nat.lt_log2_self den
    rw [show ((den.log2 : Int) + 1) = ((den.log2 + 1 : Nat) : Int) by push_cast; ring, zpow_natCast]
    exact_mod_cast hlt
  -- `2 ^ n ≤ num < 2 ^ (n + 1)` and the same of `den`: the value lies between `2 ^ (n - d - 1)` and
  -- `2 ^ (n - d + 1)`
  constructor
  · apply (Int.zpow_le_iff_le_log (by decide) hv).1
    rw [le_div_iff₀ hdq]
    calc (2 : ℚ) ^ ((num.log2 : Int) - den.log2 - 1) * den
        ≤ 2 ^ ((num.log2 : Int) - den.log2 - 1) * 2 ^ ((den.log2 : Int) + 1) :=
          mul_le_mul_of_nonneg_left hdhigh.le (by positivity)
      _ = 2 ^ (num.log2 : Int) := by
          rw [← zpow_add₀ two_ne_zero]
          congr 1
          ring
      _ ≤ num := hnlow
  · have hlt : (num : ℚ) / den < 2 ^ ((num.log2 : Int) - den.log2 + 1) := by
      rw [div_lt_iff₀ hdq]
      calc (num : ℚ) < 2 ^ ((num.log2 : Int) + 1) := hnhigh
        _ = 2 ^ ((num.log2 : Int) - den.log2 + 1) * 2 ^ (den.log2 : Int) := by
            rw [← zpow_add₀ two_ne_zero]
            congr 1
            ring
        _ ≤ 2 ^ ((num.log2 : Int) - den.log2 + 1) * den :=
            mul_le_mul_of_nonneg_left hdlow (by positivity)
    have hlog : Int.log 2 ((num : ℚ) / den) < (num.log2 : Int) - den.log2 + 1 :=
      (Int.lt_zpow_iff_log_lt (b := 2) (by decide) hv).1 (by simpa using hlt)
    omega

/-- **The last place of a quotient is fixed by the binary logarithm of its value.** -/
theorem lastPlaceIn_eq (bits : Nat) (least : Int) {num den : Nat} (hn : 0 < num) (hd : 0 < den) :
    lastPlaceIn bits least num den = max least (Int.log 2 ((num : ℚ) / den) + 1 - bits) := by
  have hv : (0 : ℚ) < (num : ℚ) / den :=
    div_pos (by exact_mod_cast hn) (by exact_mod_cast hd)
  obtain ⟨hlow, hhigh⟩ := log_div_bounds hn hd
  have hbelow : isBelowPower num den ((num.log2 : Int) - den.log2 - bits + bits) = true ↔
      Int.log 2 ((num : ℚ) / den) < (num.log2 : Int) - den.log2 := by
    rw [isBelowPower_iff hd, sub_add_cancel]
    exact_mod_cast Int.lt_zpow_iff_log_lt (b := 2) (by decide) hv
  -- the logarithm is one of two, and the comparison with a power of two tells which
  rw [lastPlaceIn]
  congr 1
  split
  · rename_i h
    have := hbelow.1 h
    omega
  · rename_i h
    have := mt hbelow.2 h
    omega

/-! ## (3) The nearest natural -/

/-- Rounding to a natural depends on the value of the quotient only. -/
theorem nearest_mul_right (num den : Nat) {k : Nat} (hk : 0 < k) :
    nearest (num * k) (den * k) = nearest num den := by
  have hlt : ∀ a b : Nat, 2 * (a * k) < b * k ↔ 2 * a < b := by
    intro a b
    rw [← Nat.mul_assoc, Nat.mul_lt_mul_right hk]
  have hgt : ∀ a b : Nat, b * k < 2 * (a * k) ↔ b < 2 * a := by
    intro a b
    rw [← Nat.mul_assoc, Nat.mul_lt_mul_right hk]
  simp only [nearest, Nat.mul_div_mul_right num den hk, Nat.mul_mod_mul_right, hlt, hgt]

theorem nearest_congr {num den num' den' : Nat} (hd : 0 < den) (hd' : 0 < den')
    (h : num * den' = num' * den) : nearest num den = nearest num' den' := by
  rw [← nearest_mul_right num den hd', ← nearest_mul_right num' den' hd, h, Nat.mul_comm den den']

/-- A natural is the nearest to itself. -/
theorem nearest_mul_self (m : Nat) {den : Nat} (hd : 0 < den) : nearest (m * den) den = m := by
  simp [nearest, Nat.mul_div_cancel m hd, hd]

/-! ## (4) The nearest number -/

/-- **Quotients of one value round to one number.** -/
theorem ofRatio_congr (negative : Bool) {num den num' den' : Nat} (hd : 0 < den) (hd' : 0 < den')
    (h : num * den' = num' * den) : ofRatio negative num den = ofRatio negative num' den' := by
  have hzero : num = 0 ↔ num' = 0 := by
    constructor
    · rintro rfl
      rw [Nat.zero_mul] at h
      exact (Nat.mul_eq_zero.1 h.symm).resolve_right hd.ne'
    · rintro rfl
      rw [Nat.zero_mul] at h
      exact (Nat.mul_eq_zero.1 h).resolve_right hd'.ne'
  by_cases hn : num = 0
  · rw [hn, hzero.1 hn, ofRatio_zero, ofRatio_zero]
  have hn' : num' ≠ 0 := mt hzero.2 hn
  have hvalue : (num : ℚ) / den = (num' : ℚ) / den' := by
    rw [div_eq_div_iff (by exact_mod_cast hd.ne') (by exact_mod_cast hd'.ne')]
    exact_mod_cast h
  have hplace : lastPlace num den = lastPlace num' den' := by
    rw [lastPlace, lastPlace, lastPlaceIn_eq _ _ (Nat.pos_of_ne_zero hn) hd,
      lastPlaceIn_eq _ _ (Nat.pos_of_ne_zero hn') hd', hvalue]
  have hdigits : ∀ a b : Nat, nearest (num * 2 ^ a) (den * 2 ^ b)
      = nearest (num' * 2 ^ a) (den' * 2 ^ b) := by
    intro a b
    refine nearest_congr (by positivity) (by positivity) ?_
    calc num * 2 ^ a * (den' * 2 ^ b) = num * den' * (2 ^ a * 2 ^ b) := by ring
      _ = num' * den * (2 ^ a * 2 ^ b) := by rw [h]
      _ = num' * 2 ^ a * (den * 2 ^ b) := by ring
  simp only [ofRatio, if_neg hn, if_neg hn', hplace, hdigits]

/-- The last place of a value that is a number is the exponent of that number. -/
theorem lastPlace_exact {num den m : Nat} {q : Int} (h : Canonical m q) (hm : m ≠ 0)
    (hn : 0 < num) (hd : 0 < den) (hv : (num : ℚ) / den = m * 2 ^ q) : lastPlace num den = q := by
  have hpos : (0 : ℚ) < m * 2 ^ q := by
    have : (0 : ℚ) < m := by exact_mod_cast Nat.pos_of_ne_zero hm
    positivity
  have hupper : ∀ b : Nat, m < 2 ^ b → Int.log 2 ((m : ℚ) * 2 ^ q) < b + q := by
    intro b hb
    apply (Int.lt_zpow_iff_log_lt (b := 2) (by decide) hpos).1
    push_cast
    rw [zpow_add₀ two_ne_zero, zpow_natCast]
    have : (m : ℚ) < 2 ^ b := by exact_mod_cast hb
    exact mul_lt_mul_of_pos_right this (by positivity)
  have hlower : ∀ b : Nat, 2 ^ b ≤ m → b + q ≤ Int.log 2 ((m : ℚ) * 2 ^ q) := by
    intro b hb
    apply (Int.zpow_le_iff_le_log (b := 2) (by decide) hpos).1
    push_cast
    rw [zpow_add₀ two_ne_zero, zpow_natCast]
    have : (2 : ℚ) ^ b ≤ m := by exact_mod_cast hb
    exact mul_le_mul_of_nonneg_right this (by positivity)
  obtain ⟨hsmall, hleast, -, hnormal⟩ := h
  rw [lastPlace, lastPlaceIn_eq _ _ hn hd, hv]
  have htop := hupper 53 hsmall
  by_cases hbig : 2 ^ 52 ≤ m
  · -- all 53 bits are used: the logarithm is `52 + q`
    have hbottom := hlower 52 hbig
    push_cast at htop hbottom ⊢
    omega
  · -- fewer bits are used only with the least exponent, which then wins
    have htop' := hupper 52 (Nat.lt_of_not_le hbig)
    have hq := hnormal.resolve_left hbig
    push_cast at htop' ⊢
    omega

/-- **A value that is a number rounds to that number.** -/
theorem ofRatio_exact (negative : Bool) {num den m : Nat} {q : Int} (h : Canonical m q)
    (hd : 0 < den) (hv : (num : ℚ) / den = m * 2 ^ q) :
    ofRatio negative num den = .finite negative m q h := by
  have hdq : (den : ℚ) ≠ 0 := by exact_mod_cast hd.ne'
  have hpow : ∀ n : Nat, (2 : ℚ) ^ n ≠ 0 := fun n => by positivity
  -- the same equation without division, since rounding works on naturals
  have hcross : num * 2 ^ (-q).toNat = m * (den * 2 ^ q.toNat) := by
    rw [zpow_eq_div_pow two_ne_zero] at hv
    have hq : (num : ℚ) * 2 ^ (-q).toNat = m * (den * 2 ^ q.toNat) := by
      field_simp at hv
      linarith
    exact_mod_cast hq
  by_cases hm : m = 0
  · subst hm
    have hn : num = 0 := by simpa using hcross
    have hq : q = -1074 := h.2.2.2.resolve_left (by decide)
    subst hq
    rw [hn, ofRatio_zero, zero]
  have hn : 0 < num := by
    rcases Nat.eq_zero_or_pos num with hz | hp
    · have hdp : den * 2 ^ q.toNat ≠ 0 := by positivity
      rw [hz, Nat.zero_mul] at hcross
      exact absurd hcross.symm (Nat.mul_ne_zero hm hdp)
    · exact hp
  have hdigits : nearest (num * 2 ^ (-q).toNat) (den * 2 ^ q.toNat) = m := by
    rw [hcross, nearest_mul_self m (by positivity)]
  simp only [ofRatio, if_neg hn.ne', lastPlace_exact h hm hn hd hv, hdigits, dif_pos h]

/-- The sign takes no part in rounding. -/
theorem ofRatio_of_positive (negative : Bool) {num den m : Nat} {q : Int} {h : Canonical m q}
    (hr : ofRatio false num den = .finite false m q h) :
    ofRatio negative num den = .finite negative m q h := by
  unfold ofRatio at hr ⊢
  split
  · rename_i hn
    rw [if_pos hn, zero, Number.finite.injEq] at hr
    obtain ⟨-, rfl, rfl⟩ := hr
    rfl
  · rename_i hn
    rw [if_neg hn] at hr
    dsimp only at hr ⊢
    split
    · rename_i hc
      rw [dif_pos hc, Number.finite.injEq] at hr
      exact Number.finite.injEq .. ▸ ⟨rfl, hr.2⟩
    · rename_i hc
      rw [dif_neg hc] at hr
      split
      · rename_i hc'
        rw [dif_pos hc', Number.finite.injEq] at hr
        exact Number.finite.injEq .. ▸ ⟨rfl, hr.2⟩
      · rename_i hc'
        rw [dif_neg hc'] at hr
        cases hr

end Number

end MediaTransform
