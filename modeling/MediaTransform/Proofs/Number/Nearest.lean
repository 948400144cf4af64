import MediaTransform.Proofs.Number.Value

/-! # The nearest number

What correct rounding is, said over the rationals and without the rounding functions:

* **`Number.IsNearest`** — no finite number is nearer to the value, of two equally near ones the
  even one is taken, and values beyond the largest number are infinite.
* **`Number.IsNearest.unique`** — a value has one nearest number.
* **`Number.isNearest_ofRatio`** — a quotient becomes the number nearest to it. -/

namespace MediaTransform

namespace Number

/-! ## (1) Nearest numbers -/

/-- Half of the last place of the largest numbers. -/
def halfPlace : ℚ := 2 ^ (970 : Int)

/-- **Where numbers end**: half a place above the largest finite one, and half a place below the
next power of two. Values from here on are rounded to an infinity. -/
def overflow : ℚ := 2 ^ (1024 : Int) - halfPlace

/-- **The number nearest to `± v`**, for a value `v` that is not negative. It has the sign that is
asked for; no finite number is nearer to `v` than its magnitude is, and where another one is equally
near, the significand is even. -/
inductive IsNearest (negative : Bool) (v : ℚ) : Number → Prop where
  | finite {m : Nat} {q : Int} (canonical : Canonical m q) (below : v < overflow)
      (near : ∀ y : Number, y.isFinite = true → |(m : ℚ) * 2 ^ q - v| ≤ |y.value - v|)
      (even : ∀ y : Number, y.isFinite = true → y.value ≠ m * 2 ^ q →
        |y.value - v| = |(m : ℚ) * 2 ^ q - v| → m % 2 = 0) :
      IsNearest negative v (.finite negative m q canonical)
  | infinite (beyond : overflow ≤ v) : IsNearest negative v (.infinite negative)

/-- The nearest number is finite exactly below the end. -/
theorem IsNearest.isFinite_iff {negative : Bool} {v : ℚ} {x : Number}
    (h : IsNearest negative v x) : x.isFinite = true ↔ v < overflow := by
  cases h with
  | finite canonical below near even => exact iff_of_true rfl below
  | infinite beyond => exact iff_of_false (by simp) (not_lt.2 beyond)

/-! ## (2) Only one number is nearest -/

section Unique

variable {m n : Nat} {q r : Int}

/-- A magnitude has one canonical form. -/
theorem canonical_unique (hm : Canonical m q) (hn : Canonical n r)
    (h : (m : ℚ) * 2 ^ q = n * 2 ^ r) : m = n ∧ q = r := by
  have hvalue : ((m * 2 ^ q.toNat : Nat) : ℚ) / (2 ^ (-q).toNat : Nat) = m * 2 ^ q := by
    rw [zpow_eq_div_pow two_ne_zero q]
    push_cast
    rw [mul_div_assoc]
  -- both forms are what the magnitude is rounded to
  have hboth := (ofRatio_exact false hm (by positivity) hvalue).symm.trans
    (ofRatio_exact false hn (by positivity) (hvalue.trans h))
  rw [Number.finite.injEq] at hboth
  exact hboth.2

/-- **The next magnitude is one place up** at least. -/
theorem canonical_gap (hm : Canonical m q) (hn : Canonical n r)
    (h : (m : ℚ) * 2 ^ q < n * 2 ^ r) : ((m + 1 : Nat) : ℚ) * 2 ^ q ≤ n * 2 ^ r := by
  rcases le_or_gt q r with hle | hlt
  · rw [canonical_eq_units hle] at h ⊢
    have hnat : m < n * 2 ^ (r - q).toNat := by
      exact_mod_cast lt_of_mul_lt_mul_right h (by positivity)
    exact mul_le_mul_of_nonneg_right (by exact_mod_cast hnat) (by positivity)
  · -- a smaller place goes with a smaller magnitude
    have hr : -1074 ≤ r := hn.2.1
    have hbits : 2 ^ 52 ≤ m := hm.2.2.2.resolve_right (by omega)
    have hlarge : (2 : ℚ) ^ (q + 52) ≤ m * 2 ^ q := by
      have hpow : (2 : ℚ) ^ (q + 52) = ((2 ^ 52 : Nat) : ℚ) * 2 ^ q := two_zpow_add q 52
      rw [hpow]
      exact mul_le_mul_of_nonneg_right (by exact_mod_cast hbits) (by positivity)
    exact absurd (h.trans (canonical_lt_of_lt hn hlt)) (not_lt.2 hlarge)

/-- Two different magnitudes with even significands are not equally near: there is one between
them. -/
theorem not_near_of_lt {v : ℚ} (hm : Canonical m q) (hn : Canonical n r)
    (h : (m : ℚ) * 2 ^ q < n * 2 ^ r) (hmeven : m % 2 = 0) (hneven : n % 2 = 0)
    (htie : |(m : ℚ) * 2 ^ q - v| = |(n : ℚ) * 2 ^ r - v|) :
    ∃ y : Number, y.isFinite = true ∧ |y.value - v| < |(m : ℚ) * 2 ^ q - v| := by
  have hnext : Canonical (m + 1) q := by
    obtain ⟨hlt, hleast, hmost, hbits⟩ := hm
    exact ⟨by omega, hleast, hmost, hbits.imp_left (by omega)⟩
  have hup : (m : ℚ) * 2 ^ q < ((m + 1 : Nat) : ℚ) * 2 ^ q :=
    mul_lt_mul_of_pos_right (by exact_mod_cast Nat.lt_succ_self m) (by positivity)
  have hdown : ((m + 1 : Nat) : ℚ) * 2 ^ q < n * 2 ^ r := by
    refine lt_of_le_of_ne (canonical_gap hm hn h) fun heq => ?_
    have := (canonical_unique hnext hn heq).1
    omega
  refine ⟨.finite false (m + 1) q hnext, rfl, ?_⟩
  show |((m + 1 : Nat) : ℚ) * 2 ^ q - v| < _
  generalize (m : ℚ) * 2 ^ q = a at *
  generalize ((m + 1 : Nat) : ℚ) * 2 ^ q = c at *
  generalize (n : ℚ) * 2 ^ r = b at *
  -- the value lies in the middle of the two
  have hmiddle : v - a = b - v := by
    rcases abs_eq_abs.1 htie with heq | heq
    · linarith
    · linarith
  rw [abs_lt, abs_of_nonpos (by linarith)]
  constructor <;> linarith

/-- **A value has one nearest number.** -/
theorem IsNearest.unique {negative : Bool} {v : ℚ} {x y : Number} (hx : IsNearest negative v x)
    (hy : IsNearest negative v y) : x = y := by
  cases hx with
  | infinite beyond =>
    cases hy with
    | infinite _ => rfl
    | finite _ below _ _ => exact absurd below (not_lt.2 beyond)
  | @finite m q hm below hmnear hmeven =>
    cases hy with
    | infinite beyond => exact absurd below (not_lt.2 beyond)
    | @finite n r hn _ hnnear hneven =>
      have htie : |(m : ℚ) * 2 ^ q - v| = |(n : ℚ) * 2 ^ r - v| :=
        le_antisymm (hmnear (.finite false n r hn) rfl) (hnnear (.finite false m q hm) rfl)
      by_cases hsame : (m : ℚ) * 2 ^ q = n * 2 ^ r
      · obtain ⟨rfl, rfl⟩ := canonical_unique hm hn hsame
        rfl
      · -- equally near and different: both are even, and one between them is nearer
        have hm2 := hmeven (.finite false n r hn) rfl (Ne.symm hsame) htie.symm
        have hn2 := hneven (.finite false m q hm) rfl hsame htie
        rcases lt_or_gt_of_ne hsame with hlt | hgt
        · obtain ⟨z, hz, hnear⟩ := not_near_of_lt hm hn hlt hm2 hn2 htie
          exact absurd (hmnear z hz) (not_le.2 hnear)
        · obtain ⟨z, hz, hnear⟩ := not_near_of_lt hn hm hgt hn2 hm2 htie.symm
          exact absurd (hnnear z hz) (not_le.2 hnear)

end Unique

/-! ## (3) Rounding finds it -/

section Nearest

variable {num den : Nat}

/-- Two integers cannot both be within less than a half. -/
theorem one_le_abs_sub_add {k n : Int} (h : k ≠ n) (x : ℚ) :
    1 ≤ |(k : ℚ) - x| + |(n : ℚ) - x| := by
  have hint : 1 ≤ |k - n| := Int.one_le_abs (by omega)
  calc (1 : ℚ) ≤ |(k : ℚ) - n| := by exact_mod_cast hint
    _ ≤ |(k : ℚ) - x| + |x - n| := abs_sub_le _ _ _
    _ = |(k : ℚ) - x| + |(n : ℚ) - x| := by rw [abs_sub_comm x]

/-- The nearest natural is the nearest one. -/
theorem abs_nearest_sub_le_abs (hd : 0 < den) (k : Nat) :
    |(nearest num den : ℚ) - (num : ℚ) / den| ≤ |(k : ℚ) - (num : ℚ) / den| := by
  by_cases hk : k = nearest num den
  · rw [hk]
  · have hhalf := @abs_nearest_sub_le num den hd
    have hone := one_le_abs_sub_add (mt Int.natCast_inj.1 hk) ((num : ℚ) / den)
    rw [Int.cast_natCast, Int.cast_natCast] at hone
    linarith

/-- It is off by less than a half, unless the quotient lies in the middle of two naturals. -/
theorem abs_nearest_sub_lt (hd : 0 < den) (h : 2 * (num % den) ≠ den) :
    |(nearest num den : ℚ) - (num : ℚ) / den| < 1 / 2 := by
  have hdq : (0 : ℚ) < den := by exact_mod_cast hd
  have hsum : (den : ℚ) * (num / den : Nat) + (num % den : Nat) = num := by
    exact_mod_cast Nat.div_add_mod num den
  have hquotient : (num : ℚ) / den = (num / den : Nat) + (num % den : Nat) / den := by
    field_simp
    linarith
  have hcases : nearest num den = num / den ∧ 2 * (num % den) < den ∨
      nearest num den = num / den + 1 ∧ den < 2 * (num % den) := by
    simp only [nearest]
    split
    · exact .inl ⟨rfl, by assumption⟩
    · split
      · exact .inr ⟨rfl, by assumption⟩
      · omega
  have hrest : (0 : ℚ) ≤ (num % den : Nat) / den := by positivity
  have hone : ((num % den : Nat) : ℚ) / den < 1 :=
    (div_lt_one hdq).2 (by exact_mod_cast Nat.mod_lt num hd)
  rw [hquotient, abs_lt]
  rcases hcases with ⟨heq, hlow⟩ | ⟨heq, hhigh⟩
  · have hsmall : ((num % den : Nat) : ℚ) / den < 1 / 2 := by
      have hcast : (2 : ℚ) * (num % den : Nat) < den := by exact_mod_cast hlow
      rw [div_lt_iff₀ hdq]
      linarith
    rw [heq]
    constructor <;> linarith
  · have hlarge : 1 / 2 < ((num % den : Nat) : ℚ) / den := by
      have hcast : (den : ℚ) < 2 * (num % den : Nat) := by exact_mod_cast hhigh
      rw [lt_div_iff₀ hdq]
      linarith
    rw [heq, Nat.cast_add, Nat.cast_one]
    constructor <;> linarith

/-- In the middle the even one is taken. -/
theorem even_nearest_of_half (h : 2 * (num % den) = den) : nearest num den % 2 = 0 := by
  simp only [nearest]
  split
  · omega
  · split
    · omega
    · split <;> omega

/-- Where another natural is equally near, the nearest one is even. -/
theorem even_nearest_of_tie (hd : 0 < den) {k : Nat} (hk : k ≠ nearest num den)
    (htie : |(k : ℚ) - (num : ℚ) / den| = |(nearest num den : ℚ) - (num : ℚ) / den|) :
    nearest num den % 2 = 0 := by
  by_cases hhalf : 2 * (num % den) = den
  · exact even_nearest_of_half hhalf
  · have hlt := abs_nearest_sub_lt hd hhalf
    have hone := one_le_abs_sub_add (mt Int.natCast_inj.1 hk) ((num : ℚ) / den)
    rw [Int.cast_natCast, Int.cast_natCast] at hone
    linarith

end Nearest

section Rounded

variable {num den : Nat}

/-- Distances in units of the last place. -/
theorem abs_units_sub (hd : 0 < den) (k : Nat) :
    |(k : ℚ) * 2 ^ lastPlace num den - (num : ℚ) / den| =
      |(k : ℚ) - ((num * 2 ^ (-lastPlace num den).toNat : Nat) : ℚ) /
        (den * 2 ^ (lastPlace num den).toNat : Nat)| * 2 ^ lastPlace num den := by
  rw [← scaled_div num hd (lastPlace num den), ← sub_mul, abs_mul,
    abs_of_pos (by positivity : (0 : ℚ) < 2 ^ lastPlace num den)]

/-- **No multiple of the last place is nearer** than the rounded value. -/
theorem abs_rounded_sub_le_abs (hd : 0 < den) (k : Nat) :
    |rounded num den - (num : ℚ) / den| ≤
      |(k : ℚ) * 2 ^ lastPlace num den - (num : ℚ) / den| := by
  rw [rounded, abs_units_sub hd, abs_units_sub hd]
  exact mul_le_mul_of_nonneg_right (abs_nearest_sub_le_abs (by positivity) k) (by positivity)

/-- Where another multiple is equally near, the units are even. -/
theorem even_units_of_tie (hd : 0 < den) {k : Nat}
    (hk : (k : ℚ) * 2 ^ lastPlace num den ≠ rounded num den)
    (htie : |(k : ℚ) * 2 ^ lastPlace num den - (num : ℚ) / den| =
      |rounded num den - (num : ℚ) / den|) : units num den % 2 = 0 := by
  rw [rounded, abs_units_sub hd, abs_units_sub hd] at htie
  refine even_nearest_of_tie (by positivity) (fun heq => hk ?_)
    (mul_right_cancel₀ (by positivity) htie)
  rw [rounded, units, ← heq]

/-- **A finite number is a multiple of the last place, or a multiple of it is nearer.** -/
theorem exists_units_near (hn : 0 < num) (hd : 0 < den) (y : Number) :
    ∃ k : Nat, y.value = k * 2 ^ lastPlace num den ∨
      |(k : ℚ) * 2 ^ lastPlace num den - (num : ℚ) / den| < |y.value - (num : ℚ) / den| := by
  have hv : (0 : ℚ) < (num : ℚ) / den := div_pos (by exact_mod_cast hn) (by exact_mod_cast hd)
  rcases lt_or_ge y.value 0 with hneg | hnonneg
  · -- zero is nearer than a negative number
    refine ⟨0, .inr ?_⟩
    rw [Nat.cast_zero, zero_mul, zero_sub, abs_neg, abs_of_pos hv, abs_of_neg (by linarith)]
    linarith
  obtain ⟨m, q, hm, hvalue⟩ := exists_canonical hnonneg
  rw [hvalue]
  rcases le_or_gt (lastPlace num den) q with hle | hlt
  · exact ⟨_, .inl (canonical_eq_units hle m)⟩
  · -- the value uses all 53 bits, and the first of them is above the number
    have hq : -1074 ≤ q := hm.2.1
    have hbits := (lastPlace_bounds hn hd).2.1.resolve_left (by omega)
    have hbelow := canonical_lt_of_lt hm hlt
    have hpow : (2 : ℚ) ^ (lastPlace num den + 52)
        = ((2 ^ 52 : Nat) : ℚ) * 2 ^ lastPlace num den := two_zpow_add _ 52
    refine ⟨2 ^ 52, .inr ?_⟩
    rw [← hpow, abs_of_nonpos (sub_nonpos.2 hbits),
      abs_of_neg (sub_neg.2 (hbelow.trans_le hbits))]
    exact neg_lt_neg (sub_lt_sub_right hbelow _)

/-- A canonical form of an even number of units is even. -/
theorem even_of_even_units {m k : Nat} {q e : Int} (hm : Canonical m q)
    (h : (m : ℚ) * 2 ^ q = k * 2 ^ e) (hk : k % 2 = 0) (hmost : k ≤ 2 ^ 53) (he : -1074 ≤ e) :
    m % 2 = 0 := by
  have hpow : ∀ i : Int, (2 : ℚ) ^ i ≠ 0 := fun i => by positivity
  rcases le_or_gt q e with hle | hlt
  · rw [canonical_eq_units hle k] at h
    have hnat : m = k * 2 ^ (e - q).toNat := by exact_mod_cast mul_right_cancel₀ (hpow q) h
    rw [hnat, Nat.mul_mod, hk, Nat.zero_mul, Nat.zero_mod]
  · -- the units were `2 ^ 53`, which is one place up
    rw [canonical_eq_units hlt.le m] at h
    have hnat : m * 2 ^ (q - e).toNat = k := by exact_mod_cast mul_right_cancel₀ (hpow e) h
    have hbits : 2 ^ 52 ≤ m := hm.2.2.2.resolve_right (by omega)
    have htwo : 2 ^ 1 ≤ 2 ^ (q - e).toNat := Nat.pow_le_pow_right (by decide) (by omega)
    have := Nat.mul_le_mul_left m htwo
    omega

end Rounded

/-! ## (4) The end of the numbers -/

section Overflow

variable {num den : Nat}

theorem halfPlace_pos : 0 < halfPlace := by
  rw [halfPlace]
  positivity

/-- Powers of two near the end, in halves of the last place. -/
theorem two_zpow_eq (k : Nat) : (2 : ℚ) ^ (970 + k : Int) = 2 ^ k * halfPlace := by
  rw [halfPlace, zpow_add₀ two_ne_zero, zpow_natCast, mul_comm]

theorem two_zpow_1024 : (2 : ℚ) ^ (1024 : Int) = overflow + halfPlace := by
  rw [overflow, sub_add_cancel]

theorem overflow_eq : overflow = (2 ^ 54 - 1) * halfPlace := by
  have hpow : (2 : ℚ) ^ (1024 : Int) = 2 ^ 54 * halfPlace := two_zpow_eq 54
  rw [overflow, hpow]
  ring

/-- The largest finite number has all 53 bits set. -/
theorem canonical_largest : Canonical (2 ^ 53 - 1) 971 := by decide

theorem largest_eq : ((2 ^ 53 - 1 : Nat) : ℚ) * 2 ^ (971 : Int) = overflow - halfPlace := by
  have hpow : (2 : ℚ) ^ (971 : Int) = 2 ^ 1 * halfPlace := two_zpow_eq 1
  rw [overflow_eq, hpow]
  norm_num
  ring

theorem overflow_pos : 0 < overflow := by
  rw [overflow_eq]
  exact mul_pos (by norm_num) halfPlace_pos

/-- Around the end the last place is that of the largest number. -/
theorem le_lastPlace (hn : 0 < num) (hd : 0 < den)
    (h : overflow - halfPlace ≤ (num : ℚ) / den) : 971 ≤ lastPlace num den := by
  have hpow : (2 : ℚ) ^ (1023 : Int) = 2 ^ 53 * halfPlace := two_zpow_eq 53
  have hlow : (2 : ℚ) ^ (1023 : Int) < overflow - halfPlace := by
    have hgap : 0 < (2 ^ 53 - 2) * halfPlace := mul_pos (by norm_num) halfPlace_pos
    rw [hpow, overflow_eq, ← sub_pos]
    exact hgap.trans_eq (by ring)
  have hlt := (zpow_lt_zpow_iff_right₀ (one_lt_two (α := ℚ))).1
    ((hlow.trans_le h).trans (lastPlace_bounds hn hd).1)
  omega

theorem lastPlace_le (hn : 0 < num) (hd : 0 < den) (hlow : overflow - halfPlace ≤ (num : ℚ) / den)
    (h : (num : ℚ) / den < overflow) : lastPlace num den ≤ 971 := by
  have hplace := le_lastPlace hn hd hlow
  have hend : overflow < 2 ^ (1024 : Int) := by
    rw [two_zpow_1024]
    exact lt_add_of_pos_right _ halfPlace_pos
  have hbits := (lastPlace_bounds hn hd).2.1.resolve_left (by omega)
  have hlt := (zpow_lt_zpow_iff_right₀ (one_lt_two (α := ℚ))).1 ((hbits.trans_lt h).trans hend)
  omega

/-- **Below the end a value is rounded to the largest number at most.** -/
theorem rounded_lt_of_lt (hn : 0 < num) (hd : 0 < den) (h : (num : ℚ) / den < overflow) :
    rounded num den < 2 ^ (1024 : Int) := by
  have hpos := halfPlace_pos
  rw [two_zpow_1024]
  rcases le_or_gt ((num : ℚ) / den) (overflow - halfPlace) with hle | hgt
  · have hround := rounded_le hn hd canonical_largest (by rwa [largest_eq])
    rw [largest_eq] at hround
    linarith
  · -- the largest number is a multiple of the place, and less than half a place away
    have hnear := @abs_rounded_sub_le_abs num den hd
      ((2 ^ 53 - 1) * 2 ^ (971 - lastPlace num den).toNat)
    rw [← canonical_eq_units (lastPlace_le hn hd hgt.le h), largest_eq,
      abs_sub_comm (overflow - halfPlace), abs_of_pos (sub_pos.2 hgt)] at hnear
    have hsub := (le_abs_self _).trans hnear
    linarith

/-- **From the end on it is rounded up**: of the two neighbours of the end, the upper one is even. -/
theorem le_rounded_of_le (hn : 0 < num) (hd : 0 < den) (h : overflow ≤ (num : ℚ) / den) :
    2 ^ (1024 : Int) ≤ rounded num den := by
  have hpos := halfPlace_pos
  have hplace := le_lastPlace hn hd (by linarith)
  have hbits : 2 ^ 52 ≤ units num den := (units_bounds hn hd).2.resolve_left (by omega)
  rcases hplace.eq_or_lt with heq | hlt
  · -- otherwise the units are odd, and half a place below the end
    have hend : ((2 ^ 53 : Nat) : ℚ) * 2 ^ lastPlace num den = overflow + halfPlace := by
      rw [← heq, ← two_zpow_1024]
      exact (two_zpow_add 971 53).symm
    have herror := @abs_rounded_sub_le num den hd
    have hpow : (2 : ℚ) ^ (971 : Int) = 2 ^ 1 * halfPlace := two_zpow_eq 1
    rw [← heq, hpow] at herror
    by_contra hbelow
    rw [not_le, two_zpow_1024] at hbelow
    have hmost : units num den < 2 ^ 53 := by
      rw [← hend, rounded] at hbelow
      exact_mod_cast lt_of_mul_lt_mul_right hbelow (by positivity)
    have hlargest : rounded num den ≤ overflow - halfPlace := by
      rw [← largest_eq, rounded, ← heq]
      exact mul_le_mul_of_nonneg_right (by exact_mod_cast Nat.le_sub_one_of_lt hmost) (by positivity)
    have hlow := (abs_le.1 herror).1
    have hvalue : (num : ℚ) / den = overflow := by linarith
    have hround : rounded num den = overflow - halfPlace := by linarith
    have heven := even_units_of_tie hd (k := 2 ^ 53) (by rw [hend]; exact hbelow.ne') (by
      rw [hend, hround, hvalue, add_sub_cancel_left, sub_sub_cancel_left, abs_neg])
    have hodd : units num den = 2 ^ 53 - 1 := by
      rw [← largest_eq, rounded, ← heq] at hround
      exact_mod_cast mul_right_cancel₀ (by positivity) hround
    omega
  · calc (2 : ℚ) ^ (1024 : Int) ≤ 2 ^ (lastPlace num den + 52) :=
          zpow_le_zpow_right₀ one_le_two (by omega)
      _ = ((2 ^ 52 : Nat) : ℚ) * 2 ^ lastPlace num den := two_zpow_add _ 52
      _ ≤ rounded num den := mul_le_mul_of_nonneg_right (by exact_mod_cast hbits) (by positivity)

/-- **A quotient becomes the number nearest to it.** -/
theorem isNearest_ofRatio (negative : Bool) (num : Nat) (hd : 0 < den) :
    IsNearest negative ((num : ℚ) / den) (ofRatio negative num den) := by
  rcases Nat.eq_zero_or_pos num with rfl | hn
  · rw [ofRatio_zero, zero]
    refine .finite _ ?_ (fun y _ => ?_) fun _ _ _ _ => rfl
    · rw [Nat.cast_zero, zero_div]
      exact overflow_pos
    · simp
  rcases ofRatio_cases negative hn hd with ⟨m, q, hm, hround, hvalue⟩ | ⟨hround, hlarge⟩
  · rw [hround]
    have hrange : rounded num den < 2 ^ (1024 : Int) := by
      rw [← hvalue]
      exact canonical_lt_of_lt (e := 972) hm (by have := hm.2.2.1; omega)
    refine .finite hm (not_le.1 fun h => not_lt.2 (le_rounded_of_le hn hd h) hrange)
      (fun y _ => ?_) fun y _ hne htie => ?_
    · obtain ⟨k, hk⟩ := exists_units_near hn hd y
      have hnear := @abs_rounded_sub_le_abs num den hd k
      rw [hvalue]
      rcases hk with heq | hlt
      · rwa [heq]
      · exact hnear.trans hlt.le
    · obtain ⟨k, hk⟩ := exists_units_near hn hd y
      have hnear := @abs_rounded_sub_le_abs num den hd k
      rw [hvalue] at hne htie
      rcases hk with heq | hlt
      · rw [heq] at hne htie
        exact even_of_even_units hm hvalue (even_units_of_tie hd hne htie)
          (units_bounds hn hd).1 (lastPlace_bounds hn hd).2.2
      · exact absurd (hnear.trans_lt hlt) (by rw [htie]; exact lt_irrefl _)
  · rw [hround]
    exact .infinite (not_lt.1 fun h => not_lt.2 hlarge (rounded_lt_of_lt hn hd h))

end Overflow

end Number

end MediaTransform
