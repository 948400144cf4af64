import Mathlib.Order.Compare
import MediaTransform.Proofs.Number.Rounding

/-! # The values of numbers

The rational that a finite number stands for, and how far rounding is off:

* **`Number.value`** — the value; `lt_iff_value_lt` and `le_iff_value_le` read the order off it.
* **`Number.rounded`** — a quotient rounded in its last place, which is what it becomes as a number
  (`ofRatio_cases`).
* **`Number.ofRat`** — the number nearest to a rational that is not negative. Rounding goes past no
  number (`ofRat_le`, `le_ofRat`), and its error is small beside the value (`abs_ofRat_sub_le`). -/

namespace MediaTransform

namespace Number

/-! ## (1) Values and order -/

/-- **The value of a finite number**; all other numbers have none, and count as zero here. -/
def value : Number → ℚ
  | .finite s m q _ => signed s m * 2 ^ q
  | _ => 0

/-- A power brought to the smaller of two exponents. -/
theorem two_pow_mul_zpow_min (q r : Int) : (2 : ℚ) ^ (q - r).toNat * 2 ^ min q r = 2 ^ q := by
  rw [← zpow_natCast, ← zpow_add₀ two_ne_zero]
  congr 1
  omega

/-- **Finite numbers compare as their values do.** -/
theorem cmp_eq_compare_value {a b : Number} (ha : a.isFinite = true) (hb : b.isFinite = true) :
    a.cmp b = some (compare a.value b.value) := by
  cases a with
  | nan => cases ha
  | infinite s => cases ha
  | finite s m q hm =>
    cases b with
    | nan => cases hb
    | infinite t => cases hb
    | finite t n r hn =>
      have hmono : StrictMono fun i : Int => (i : ℚ) * 2 ^ min q r := by
        intro i j hij
        exact mul_lt_mul_of_pos_right (by exact_mod_cast hij) (by positivity)
      have hleft : (signed s m : ℚ) * 2 ^ q
          = ((signed s m * 2 ^ (q - r).toNat : Int) : ℚ) * 2 ^ min q r := by
        push_cast
        rw [mul_assoc, two_pow_mul_zpow_min]
      have hright : (signed t n : ℚ) * 2 ^ r
          = ((signed t n * 2 ^ (r - q).toNat : Int) : ℚ) * 2 ^ min q r := by
        push_cast
        rw [mul_assoc, min_comm, two_pow_mul_zpow_min]
      rw [cmp, value, value, hleft, hright, ← cmp_eq_compare, ← cmp_eq_compare]
      exact congrArg some (hmono.cmp_map_eq _ _).symm

theorem lt_iff_value_lt {a b : Number} (ha : a.isFinite = true) (hb : b.isFinite = true) :
    a < b ↔ a.value < b.value := by
  rw [lt_iff, cmp_eq_compare_value ha hb, Option.some.injEq, compare_lt_iff_lt]

theorem le_iff_value_le {a b : Number} (ha : a.isFinite = true) (hb : b.isFinite = true) :
    a ≤ b ↔ a.value ≤ b.value := by
  rw [le_iff, cmp_eq_compare_value ha hb, Option.some.injEq, Option.some.injEq, compare_lt_iff_lt,
    compare_eq_iff_eq, le_iff_lt_or_eq]

/-- A finite number that lies not below another one is at least that one. -/
theorem not_lt_iff_le {a b : Number} (ha : a.isFinite = true) (hb : b.isFinite = true) :
    ¬a < b ↔ b ≤ a := by
  rw [lt_iff_value_lt ha hb, le_iff_value_le hb ha, not_lt]

theorem not_le_iff_lt {a b : Number} (ha : a.isFinite = true) (hb : b.isFinite = true) :
    ¬a ≤ b ↔ b < a := by
  rw [le_iff_value_le ha hb, lt_iff_value_lt hb ha, not_le]

/-- The values that are not negative have a positive sign, or no significand. -/
theorem value_of_nonneg {s : Bool} {m : Nat} {q : Int} {hm : Canonical m q}
    (h : 0 ≤ (Number.finite s m q hm).value) :
    (Number.finite s m q hm).value = m * 2 ^ q ∧ (s = true → m = 0) := by
  cases s with
  | false => exact ⟨rfl, nofun⟩
  | true =>
    have hpow : (0 : ℚ) < 2 ^ q := by positivity
    simp only [value, signed_true, Int.cast_neg, Int.cast_natCast] at h ⊢
    have hm : m = 0 := by
      have hneg : 0 ≤ -(m : ℚ) := (mul_nonneg_iff_of_pos_right hpow).1 h
      exact_mod_cast le_antisymm (neg_nonneg.1 hneg) (Nat.cast_nonneg m)
    exact ⟨by rw [hm]; simp, fun _ => hm⟩

/-- The values that are not negative are those of canonical significands. -/
theorem exists_canonical {x : Number} (h : 0 ≤ x.value) :
    ∃ m q, Canonical m q ∧ x.value = m * 2 ^ q := by
  cases x with
  | finite s m q hm => exact ⟨m, q, hm, (value_of_nonneg h).1⟩
  | _ => exact ⟨0, -1074, by decide, by simp [value]⟩

/-! ## (2) Rounding in the last place -/

section Nearest

variable {num den k : Nat}

/-- The nearest natural is not below a natural that the quotient reaches. -/
theorem le_nearest (hd : 0 < den) (h : k * den ≤ num) : k ≤ nearest num den := by
  have hlow : k ≤ num / den := (Nat.le_div_iff_mul_le hd).2 h
  simp only [nearest]
  split
  · exact hlow
  · split
    · omega
    · split <;> omega

/-- The nearest natural is not above a natural that the quotient stays under. -/
theorem nearest_le (hd : 0 < den) (h : num ≤ k * den) : nearest num den ≤ k := by
  have hsum := Nat.div_add_mod num den
  have hlow : num / den ≤ k := Nat.div_le_of_le_mul (by rwa [Nat.mul_comm])
  -- only a quotient with a rest is rounded up, and then it is below `k`
  have hrest : 0 < num % den → num / den + 1 ≤ k := by
    intro hpos
    by_contra hk
    have hmul : k * den ≤ num / den * den := Nat.mul_le_mul_right den (by omega)
    rw [Nat.mul_comm den] at hsum
    omega
  simp only [nearest]
  split
  · exact hlow
  · split
    · exact hrest (by omega)
    · split
      · exact hlow
      · exact hrest (by omega)

/-- **The nearest natural is off by a half at most.** -/
theorem abs_nearest_sub_le (hd : 0 < den) :
    |(nearest num den : ℚ) - (num : ℚ) / den| ≤ 1 / 2 := by
  have hdq : (0 : ℚ) < den := by exact_mod_cast hd
  have hsum : (den : ℚ) * (num / den : Nat) + (num % den : Nat) = num := by
    exact_mod_cast Nat.div_add_mod num den
  have hlt : ((num % den : Nat) : ℚ) < den := by exact_mod_cast Nat.mod_lt num hd
  have hquotient : (num : ℚ) / den = (num / den : Nat) + (num % den : Nat) / den := by
    field_simp
    linarith
  have hcases : ((nearest num den : ℚ) = (num / den : Nat) ∧ 2 * ((num % den : Nat) : ℚ) ≤ den) ∨
      ((nearest num den : ℚ) = (num / den : Nat) + 1 ∧ (den : ℚ) ≤ 2 * (num % den : Nat)) := by
    simp only [nearest]
    split
    · exact .inl ⟨rfl, by exact_mod_cast (by omega : 2 * (num % den) ≤ den)⟩
    · split
      · exact .inr ⟨by push_cast; rfl, by exact_mod_cast (by omega : den ≤ 2 * (num % den))⟩
      · split
        · exact .inl ⟨rfl, by exact_mod_cast (by omega : 2 * (num % den) ≤ den)⟩
        · exact .inr ⟨by push_cast; rfl, by exact_mod_cast (by omega : den ≤ 2 * (num % den))⟩
  have hnonneg : (0 : ℚ) ≤ (num % den : Nat) / den := by positivity
  rw [hquotient, abs_le]
  rcases hcases with ⟨heq, hsmall⟩ | ⟨heq, hlarge⟩
  · have hhalf : ((num % den : Nat) : ℚ) / den ≤ 1 / 2 := by
      rw [div_le_iff₀ hdq]
      linarith
    rw [heq]
    constructor <;> linarith
  · have hhalf : 1 / 2 ≤ ((num % den : Nat) : ℚ) / den := by
      rw [le_div_iff₀ hdq]
      linarith
    have hone : ((num % den : Nat) : ℚ) / den ≤ 1 := (div_le_one hdq).2 hlt.le
    rw [heq]
    constructor <;> linarith

end Nearest

/-- A quotient in units of its last place, rounded to a natural number of them. -/
def units (num den : Nat) : Nat :=
  nearest (num * 2 ^ (-lastPlace num den).toNat) (den * 2 ^ (lastPlace num den).toNat)

/-- **A quotient rounded in its last place.** -/
def rounded (num den : Nat) : ℚ := units num den * 2 ^ lastPlace num den

section Rounded

variable {num den m : Nat} {q : Int}

/-- The value between the powers of its last place: 53 bits are enough, and all are used unless the
place is the least one. -/
theorem lastPlace_bounds (hn : 0 < num) (hd : 0 < den) :
    (num : ℚ) / den < 2 ^ (lastPlace num den + 53) ∧
      (lastPlace num den = -1074 ∨ (2 : ℚ) ^ (lastPlace num den + 52) ≤ (num : ℚ) / den) ∧
      -1074 ≤ lastPlace num den := by
  have hv : (0 : ℚ) < (num : ℚ) / den := div_pos (by exact_mod_cast hn) (by exact_mod_cast hd)
  have hplace : lastPlace num den = max (-1074) (Int.log 2 ((num : ℚ) / den) + 1 - 53) :=
    lastPlaceIn_eq 53 (-1074) hn hd
  refine ⟨?_, ?_, by omega⟩
  · exact (Int.lt_zpow_iff_log_lt (b := 2) (by decide) hv).2 (by omega)
  · rcases le_or_gt (Int.log 2 ((num : ℚ) / den) + 1 - 53) (-1074) with hle | hlt
    · exact .inl (by omega)
    · exact .inr ((Int.zpow_le_iff_le_log (b := 2) (by decide) hv).2 (by omega))

/-- A quotient in units of a power of two. -/
theorem scaled_div (num : Nat) {den : Nat} (hd : 0 < den) (e : Int) :
    ((num * 2 ^ (-e).toNat : Nat) : ℚ) / (den * 2 ^ e.toNat : Nat) * 2 ^ e = (num : ℚ) / den := by
  have hdq : (den : ℚ) ≠ 0 := by exact_mod_cast hd.ne'
  push_cast
  rw [zpow_eq_div_pow two_ne_zero e]
  field_simp

/-- The units of a quotient, against a natural number of them. -/
theorem mul_le_scaled_iff (hd : 0 < den) (k : Nat) (e : Int) :
    k * (den * 2 ^ e.toNat) ≤ num * 2 ^ (-e).toNat ↔ (k : ℚ) * 2 ^ e ≤ (num : ℚ) / den := by
  have hden : (0 : ℚ) < (den * 2 ^ e.toNat : Nat) := by
    exact_mod_cast Nat.mul_pos hd (by positivity)
  rw [← scaled_div num hd e, mul_le_mul_iff_left₀ (by positivity), le_div_iff₀ hden]
  exact_mod_cast Iff.rfl

theorem scaled_le_mul_iff (hd : 0 < den) (k : Nat) (e : Int) :
    num * 2 ^ (-e).toNat ≤ k * (den * 2 ^ e.toNat) ↔ (num : ℚ) / den ≤ (k : ℚ) * 2 ^ e := by
  have hden : (0 : ℚ) < (den * 2 ^ e.toNat : Nat) := by
    exact_mod_cast Nat.mul_pos hd (by positivity)
  rw [← scaled_div num hd e, mul_le_mul_iff_left₀ (by positivity), div_le_iff₀ hden]
  exact_mod_cast Iff.rfl

/-- A canonical value with a larger exponent is a natural number of units. -/
theorem canonical_eq_units {e : Int} (h : e ≤ q) (m : Nat) :
    (m : ℚ) * 2 ^ q = ((m * 2 ^ (q - e).toNat : Nat) : ℚ) * 2 ^ e := by
  push_cast
  rw [mul_assoc, ← zpow_natCast, ← zpow_add₀ two_ne_zero]
  congr 2
  omega

/-- A canonical value with a smaller exponent is below all values that use 53 bits. -/
theorem canonical_lt_of_lt {e : Int} (hm : Canonical m q) (h : q < e) :
    (m : ℚ) * 2 ^ q < 2 ^ (e + 52) := by
  have hsmall : (m : ℚ) < 2 ^ (53 : Int) := by exact_mod_cast hm.1
  calc (m : ℚ) * 2 ^ q < 2 ^ (53 : Int) * 2 ^ q := mul_lt_mul_of_pos_right hsmall (by positivity)
    _ = 2 ^ (53 + q) := (zpow_add₀ two_ne_zero _ _).symm
    _ ≤ 2 ^ (e + 52) := zpow_le_zpow_right₀ one_le_two (by omega)

/-- **Rounding does not go up past a number.** -/
theorem rounded_le (hn : 0 < num) (hd : 0 < den) (hm : Canonical m q)
    (h : (num : ℚ) / den ≤ m * 2 ^ q) : rounded num den ≤ m * 2 ^ q := by
  obtain ⟨-, hbits, hleast⟩ := lastPlace_bounds hn hd
  rw [rounded, units]
  generalize lastPlace num den = e at *
  rcases le_or_gt e q with hle | hlt
  · rw [canonical_eq_units hle] at h ⊢
    refine mul_le_mul_of_nonneg_right ?_ (by positivity)
    exact_mod_cast nearest_le (by positivity) ((scaled_le_mul_iff hd _ e).2 h)
  · -- the value would use 53 bits, all above those of the number
    have hq : -1074 ≤ q := hm.2.1
    rcases hbits with heq | hbits
    · omega
    · exact absurd (hbits.trans h) (not_le.2 (canonical_lt_of_lt hm hlt))

/-- A power of two in units of a last place. -/
theorem two_zpow_add (e : Int) (k : Nat) : (2 : ℚ) ^ (e + k) = ((2 ^ k : Nat) : ℚ) * 2 ^ e := by
  rw [zpow_add₀ two_ne_zero, mul_comm, zpow_natCast]
  norm_cast

/-- The rounded units have 53 bits, or are the next power of two, and use all of them unless the
place is the least one. -/
theorem units_bounds (hn : 0 < num) (hd : 0 < den) :
    units num den ≤ 2 ^ 53 ∧ (lastPlace num den = -1074 ∨ 2 ^ 52 ≤ units num den) := by
  obtain ⟨hupper, hbits, -⟩ := lastPlace_bounds hn hd
  constructor
  · refine nearest_le (by positivity) ((scaled_le_mul_iff hd _ _).2 ?_)
    rw [← two_zpow_add _ 53]
    exact hupper.le
  · refine hbits.imp_right fun hb => le_nearest (by positivity) ((mul_le_scaled_iff hd _ _).2 ?_)
    rw [← two_zpow_add _ 52]
    exact hb

/-- **Nor down past one.** -/
theorem le_rounded (hn : 0 < num) (hd : 0 < den) (hm : Canonical m q)
    (h : (m : ℚ) * 2 ^ q ≤ (num : ℚ) / den) : (m : ℚ) * 2 ^ q ≤ rounded num den := by
  rcases le_or_gt (lastPlace num den) q with hle | hlt
  · rw [canonical_eq_units hle] at h ⊢
    refine mul_le_mul_of_nonneg_right ?_ (by positivity)
    exact_mod_cast le_nearest (by positivity) ((mul_le_scaled_iff hd _ _).2 h)
  · -- the value uses 53 bits, and so does what it is rounded to
    have hq : -1074 ≤ q := hm.2.1
    have hunits := (units_bounds hn hd).2.resolve_left (by omega)
    calc (m : ℚ) * 2 ^ q ≤ 2 ^ (lastPlace num den + 52) := (canonical_lt_of_lt hm hlt).le
      _ = ((2 ^ 52 : Nat) : ℚ) * 2 ^ lastPlace num den := two_zpow_add _ 52
      _ ≤ rounded num den :=
        mul_le_mul_of_nonneg_right (by exact_mod_cast hunits) (by positivity)

/-- **Rounding is off by half a unit in the last place at most.** -/
theorem abs_rounded_sub_le (hd : 0 < den) :
    |rounded num den - (num : ℚ) / den| ≤ 2 ^ lastPlace num den / 2 := by
  have hnearest := @abs_nearest_sub_le (num * 2 ^ (-lastPlace num den).toNat)
    (den * 2 ^ (lastPlace num den).toNat) (by positivity)
  rw [rounded, units, ← scaled_div num hd (lastPlace num den), ← sub_mul, abs_mul,
    abs_of_pos (by positivity : (0 : ℚ) < 2 ^ lastPlace num den)]
  calc _ ≤ 1 / 2 * (2 : ℚ) ^ lastPlace num den :=
        mul_le_mul_of_nonneg_right hnearest (by positivity)
    _ = 2 ^ lastPlace num den / 2 := by ring

/-- **A quotient becomes its rounded value**, and an infinity where that is too large. -/
theorem ofRatio_cases (negative : Bool) (hn : 0 < num) (hd : 0 < den) :
    (∃ m q hm, ofRatio negative num den = .finite negative m q hm ∧
      (m : ℚ) * 2 ^ q = rounded num den) ∨
    (ofRatio negative num den = .infinite negative ∧ 2 ^ (1024 : Int) ≤ rounded num den) := by
  obtain ⟨hmost, hbits⟩ := units_bounds hn hd
  have hleast := (lastPlace_bounds hn hd).2.2
  have hnum : ofRatio negative num den =
      if h : Canonical (units num den) (lastPlace num den) then
        .finite negative (units num den) (lastPlace num den) h
      else if h : Canonical (units num den / 2) (lastPlace num den + 1) then
        .finite negative (units num den / 2) (lastPlace num den + 1) h
      else .infinite negative := if_neg hn.ne'
  -- from the exponent 972 on, with 52 bits used, no number is that large
  have hlarge : ∀ k : Nat, 2 ^ k ≤ units num den → 1024 ≤ lastPlace num den + k →
      2 ^ (1024 : Int) ≤ rounded num den := by
    intro k hk hexp
    calc (2 : ℚ) ^ (1024 : Int) ≤ 2 ^ (lastPlace num den + k) :=
          zpow_le_zpow_right₀ one_le_two hexp
      _ = ((2 ^ k : Nat) : ℚ) * 2 ^ lastPlace num den := two_zpow_add _ k
      _ ≤ rounded num den := mul_le_mul_of_nonneg_right (by exact_mod_cast hk) (by positivity)
  rw [hnum]
  by_cases hc : Canonical (units num den) (lastPlace num den)
  · exact .inl ⟨_, _, hc, dif_pos hc, rfl⟩
  rw [dif_neg hc]
  by_cases hhalf : Canonical (units num den / 2) (lastPlace num den + 1)
  · -- only `2 ^ 53` itself is halved
    have hfull : units num den = 2 ^ 53 := by
      refine Nat.le_antisymm hmost (Nat.le_of_not_lt fun hlt => hc ⟨hlt, hleast, ?_, hbits.symm⟩)
      have := hhalf.2.2.1
      omega
    refine .inl ⟨_, _, hhalf, dif_pos hhalf, ?_⟩
    have hdouble : ((units num den / 2 : Nat) : ℚ) * 2 = units num den := by
      exact_mod_cast (by omega : units num den / 2 * 2 = units num den)
    rw [zpow_add_one₀ two_ne_zero, mul_comm ((2 : ℚ) ^ lastPlace num den), ← mul_assoc, hdouble,
      rounded]
  · refine .inr ⟨dif_neg hhalf, ?_⟩
    rcases Nat.lt_or_ge (units num den) (2 ^ 53) with hlt | hge
    · have hexp : 971 < lastPlace num den :=
        lt_of_not_ge fun hle => hc ⟨hlt, hleast, hle, hbits.symm⟩
      exact hlarge 52 (hbits.resolve_left (by omega)) (by push_cast; omega)
    · have hexp : 971 < lastPlace num den + 1 :=
        lt_of_not_ge fun hle => hhalf ⟨by omega, by omega, hle, .inl (by omega)⟩
      exact hlarge 53 hge (by push_cast; omega)

end Rounded

/-! ## (3) The nearest number -/

/-- **The number nearest to a rational** that is not negative. -/
def ofRat (v : ℚ) : Number := ofRatio false v.num.toNat v.den

/-- The nearest number of a quotient is that of its value. -/
theorem ofRatio_eq_ofRat (num : Nat) {den : Nat} (hd : 0 < den) :
    ofRatio false num den = ofRat ((num : ℚ) / den) := by
  have hdq : (den : ℚ) ≠ 0 := by exact_mod_cast hd.ne'
  have hnonneg : 0 ≤ ((num : ℚ) / den).num := Rat.num_nonneg.2 (by positivity)
  have hnum : ((((num : ℚ) / den).num.toNat : Int) : ℚ) = ((num : ℚ) / den).num := by
    rw [Int.toNat_of_nonneg hnonneg]
  refine ofRatio_congr false hd (Rat.den_pos _) ?_
  have hcross : (num : ℚ) * ((num : ℚ) / den).den = ((num : ℚ) / den).num * den := by
    have hvalue := Rat.num_div_den ((num : ℚ) / den)
    have hden : (((num : ℚ) / den).den : ℚ) ≠ 0 := by exact_mod_cast Rat.den_ne_zero _
    rw [div_eq_div_iff hden hdq] at hvalue
    rw [hvalue]
  rw [← hnum] at hcross
  exact_mod_cast hcross

/-- The nearest number of a scaled natural is that of its value. -/
theorem ofScaled_eq_ofRat (c : Nat) (e : Int) : ofScaled false c e = ofRat (c * 2 ^ e) := by
  rw [ofScaled, ofRatio_eq_ofRat _ (by positivity), zpow_eq_div_pow two_ne_zero e]
  push_cast
  rw [mul_div_assoc]

@[simp] theorem ofRat_zero : ofRat 0 = zero false := rfl

section OfRat

variable {v : ℚ} {x : Number}

/-- The terms of a positive rational. -/
theorem terms_of_pos (hv : 0 < v) : 0 < v.num.toNat ∧ (v.num.toNat : ℚ) / v.den = v := by
  have hnum : 0 < v.num := Rat.num_pos.2 hv
  refine ⟨by omega, ?_⟩
  have hcast : ((v.num.toNat : Int) : ℚ) = v.num := by rw [Int.toNat_of_nonneg hnum.le]
  rw [Int.cast_natCast] at hcast
  rw [hcast, Rat.num_div_den]

/-- **A rational becomes its rounded value**, and an infinity where that is too large. -/
theorem ofRat_cases (hv : 0 < v) :
    ((ofRat v).isFinite = true ∧ (ofRat v).value = rounded v.num.toNat v.den) ∨
      ((ofRat v).isFinite = false ∧ 2 ^ (1024 : Int) ≤ rounded v.num.toNat v.den) := by
  rcases ofRatio_cases false (terms_of_pos hv).1 (Rat.den_pos v) with
    ⟨m, q, hm, hround, hvalue⟩ | ⟨hround, hlarge⟩
  · rw [ofRat, hround, ← hvalue]
    exact .inl ⟨rfl, rfl⟩
  · rw [ofRat, hround]
    exact .inr ⟨rfl, hlarge⟩

/-- **A rational is not rounded up past a number**, and so to no infinity. -/
theorem ofRat_le (hv : 0 ≤ v) (h : v ≤ x.value) :
    (ofRat v).isFinite = true ∧ (ofRat v).value ≤ x.value := by
  rcases hv.eq_or_lt with rfl | hpos
  · exact ⟨rfl, by simpa [zero, value] using h⟩
  obtain ⟨m, q, hm, hx⟩ := exists_canonical (hv.trans h)
  obtain ⟨hnum, hterms⟩ := terms_of_pos hpos
  rw [hx] at h ⊢
  have hround : rounded v.num.toNat v.den ≤ m * 2 ^ q :=
    rounded_le hnum (Rat.den_pos v) hm (by rwa [hterms])
  rcases ofRat_cases hpos with ⟨hfinite, hvalue⟩ | ⟨-, hlarge⟩
  · exact ⟨hfinite, hvalue ▸ hround⟩
  · have hrange : (m : ℚ) * 2 ^ q < 2 ^ (1024 : Int) :=
      canonical_lt_of_lt (e := 972) hm (by have := hm.2.2.1; omega)
    exact absurd (hlarge.trans hround) (not_le.2 hrange)

/-- **Nor down past one.** -/
theorem le_ofRat (hx : 0 ≤ x.value) (h : x.value ≤ v) (hfinite : (ofRat v).isFinite = true) :
    x.value ≤ (ofRat v).value := by
  rcases (hx.trans h).eq_or_lt with rfl | hpos
  · simpa [zero, value] using h
  obtain ⟨m, q, hm, hvalue⟩ := exists_canonical hx
  obtain ⟨hnum, hterms⟩ := terms_of_pos hpos
  rcases ofRat_cases hpos with ⟨-, hround⟩ | ⟨hinfinite, -⟩
  · rw [hvalue] at h ⊢
    rw [hround]
    exact le_rounded hnum (Rat.den_pos v) hm (by rwa [hterms])
  · rw [hinfinite] at hfinite
    cases hfinite

/-- **The error of rounding** is at most one part in `2 ^ 53` of the value, above the values that
use fewer than 53 bits. -/
theorem abs_ofRat_sub_le (hv : (2 : ℚ) ^ (-1022 : Int) ≤ v) (hfinite : (ofRat v).isFinite = true) :
    |(ofRat v).value - v| ≤ v / 2 ^ 53 := by
  have hpos : 0 < v := lt_of_lt_of_le (by positivity) hv
  obtain ⟨hnum, hterms⟩ := terms_of_pos hpos
  rcases ofRat_cases hpos with ⟨-, hround⟩ | ⟨hinfinite, -⟩
  · have herror := @abs_rounded_sub_le v.num.toNat v.den (Rat.den_pos v)
    obtain ⟨hupper, hbits, -⟩ := lastPlace_bounds hnum (Rat.den_pos v)
    rw [hterms] at herror hupper hbits
    -- the last place is 52 places below the first one
    have hplace : (2 : ℚ) ^ (lastPlace v.num.toNat v.den + 52) ≤ v := by
      rcases hbits with heq | hbits
      · rw [heq]
        exact hv
      · exact hbits
    rw [hround]
    refine herror.trans ?_
    rw [zpow_add₀ two_ne_zero] at hplace
    rw [div_le_div_iff₀ (by positivity) (by positivity)]
    calc (2 : ℚ) ^ lastPlace v.num.toNat v.den * 2 ^ 53
        = 2 ^ lastPlace v.num.toNat v.den * 2 ^ (52 : Int) * 2 := by norm_num; ring
      _ ≤ v * 2 := mul_le_mul_of_nonneg_right hplace (by norm_num)
  · rw [hinfinite] at hfinite
    cases hfinite

end OfRat

end Number

end MediaTransform
