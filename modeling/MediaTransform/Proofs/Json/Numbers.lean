import MediaTransform.Proofs.Json.Lexemes
import MediaTransform.Proofs.Number.Arithmetic

/-! # Short spellings are read exactly

The reader rounds the digits of a number, rounds a power of ten, and rounds what it makes of the
two. Where the digits and the power are numbers themselves, only the last rounding changes anything:

* **`Number.value_tenPower`** — the powers of ten that are numbers.
* **`Json.scale?_ofNat`** — digits of 53 bits, scaled by such a power, give the number nearest to
  the decimal.
* **`Json.NumberText.Short`** — the spellings with such digits and such a scale; they are read as
  the number nearest to what they spell (`toNumber?_of_short`).
* **`Json.toNumber?_of_ofNumber`** — a number with a short spelling is read back. -/

namespace MediaTransform

/-! ## (1) Powers of ten -/

namespace Number

/-- The nearest number of a decimal is that of its value. -/
theorem ofDecimal_eq_ofRat (c : Nat) (e : Int) : ofDecimal false c e = ofRat (c * 10 ^ e) := by
  rw [ofDecimal, ofRatio_eq_ofRat _ (by positivity), zpow_eq_div_pow (by norm_num) e]
  push_cast
  rw [mul_div_assoc]

/-- **The powers of ten that are numbers.** The fives of the last one, `5 ^ 22`, take 52 bits; the
twos only move the exponent. -/
theorem value_tenPower {n : Nat} (h : n ≤ 22) : (Json.tenPower n).value = 10 ^ n := by
  have hfives : 5 ^ n < 2 ^ 53 :=
    (Nat.pow_le_pow_right (by decide) h).trans_lt (by decide)
  obtain ⟨m, q, hm, hvalue⟩ :=
    exists_canonical_mul_zpow (e := n) hfives (by omega) (by omega)
  have hten : (10 : ℚ) ^ n = m * 2 ^ q := by
    rw [← hvalue, zpow_natCast, Nat.cast_pow, ← mul_pow]
    norm_num
  have hexact : Json.tenPower n = .finite false m q hm := by
    rw [Json.tenPower, ofDecimal]
    refine ofRatio_exact false hm (by positivity) ?_
    rw [← hten]
    simp
  rw [hexact, hten]
  rfl

theorem zero_mul_of_pos {x : Number} (h : 0 < x.value) : zero false * x = zero false := by
  obtain ⟨m, q, hm, rfl, -⟩ := finite_of_value_pos h
  show ofScaled false (0 * m) (-1074 + q) = _
  rw [ofScaled, Nat.zero_mul, Nat.zero_mul, ofRatio_zero]

theorem zero_div_of_pos {x : Number} (h : 0 < x.value) : zero false / x = zero false := by
  obtain ⟨m, q, hm, rfl, hpos⟩ := finite_of_value_pos h
  have hdiv : (zero false / .finite false m q hm : Number)
      = ofRatio false (0 * 2 ^ (-1074 - q).toNat) (m * 2 ^ (q - -1074).toNat) := if_neg hpos.ne'
  rw [hdiv, Nat.zero_mul, ofRatio_zero]

/-- The sign takes no part in rounding, also where the result is infinite. -/
theorem neg_ofRatio (num den : Nat) : -ofRatio false num den = ofRatio true num den := by
  unfold ofRatio
  split
  · rfl
  · dsimp only
    split
    · rfl
    · split <;> rfl

/-- A decimal of 53 bits with a small exponent is in the range of numbers. -/
theorem isFinite_ofDecimal {c n : Nat} (hc : c < 2 ^ 53) (hn : n ≤ 22) :
    (ofDecimal false c n).isFinite = true := by
  have hlarge :
      (c : ℚ) * 10 ^ (n : Int) ≤ (Number.finite false (2 ^ 52) 100 (by decide)).value := by
    have hpow : 10 ^ n ≤ 10 ^ 22 := Nat.pow_le_pow_right (by decide) hn
    have hnat : c * 10 ^ n ≤ 2 ^ 52 * 2 ^ 100 :=
      (Nat.mul_le_mul hc.le hpow).trans (by decide)
    rw [value, signed_false, zpow_natCast]
    exact_mod_cast hnat
  rw [ofDecimal_eq_ofRat]
  exact (ofRat_le (by positivity) hlarge).1

end Number

namespace Json

open Number

/-! ## (2) Scaled digits -/

/-- **Digits of 53 bits are scaled exactly** by a small power of ten, up to one rounding. -/
theorem scale?_ofNat {k : Nat} {e : Int} (hk : k < 2 ^ 53) (he : e.natAbs ≤ 22) :
    scale? (.ofNat k) e = some (.ofDecimal false k e) := by
  have hten : (tenPower e.natAbs).value = 10 ^ e.natAbs := value_tenPower he
  have hpos : 0 < (tenPower e.natAbs).value := by
    rw [hten]
    positivity
  rw [scale?, dif_pos (by omega)]
  rcases le_or_gt 0 e with hnonneg | hneg
  · -- a product, which is not too large
    have hproduct : .ofNat k * tenPower e.natAbs = .ofDecimal false k e := by
      rcases Nat.eq_zero_or_pos k with rfl | hkpos
      · rw [ofDecimal, Nat.zero_mul, ofRatio_zero]
        exact zero_mul_of_pos hpos
      · have hvalue : 0 < (Number.ofNat k).value := by
          rw [value_ofNat hk]
          exact_mod_cast hkpos
        rw [mul_of_pos hvalue hpos, value_ofNat hk, hten, ofDecimal_eq_ofRat, ← zpow_natCast,
          Int.natAbs_of_nonneg hnonneg]
    have hfinite : (Number.ofDecimal false k e).isFinite = true := by
      rw [← Int.natAbs_of_nonneg hnonneg]
      exact isFinite_ofDecimal hk he
    rw [if_pos hnonneg, hproduct, if_pos hfinite]
  · have hquotient : .ofNat k / tenPower e.natAbs = .ofDecimal false k e := by
      rcases Nat.eq_zero_or_pos k with rfl | hkpos
      · rw [ofDecimal, Nat.zero_mul, ofRatio_zero]
        exact zero_div_of_pos hpos
      · have hvalue : 0 < (Number.ofNat k).value := by
          rw [value_ofNat hk]
          exact_mod_cast hkpos
        have hexponent : e = -(e.natAbs : Int) := by omega
        rw [div_of_pos hvalue hpos, value_ofNat hk, hten, ofDecimal_eq_ofRat, hexponent, zpow_neg,
          zpow_natCast, ← div_eq_mul_inv, Int.natAbs_neg, Int.natAbs_natCast]
    rw [if_neg (not_le.2 hneg), hquotient]

theorem withSign_ofDecimal (negative : Bool) (c : Nat) (e : Int) :
    NumberText.withSign negative (.ofDecimal false c e) = .ofDecimal negative c e := by
  cases negative with
  | false => rfl
  | true => exact neg_ofRatio _ _

/-- Digits that are appended make a natural no smaller. -/
theorem le_ofDigitChars (n : Nat) (ds : List Char) : n ≤ Nat.ofDigitChars 10 ds n := by
  induction ds generalizing n with
  | nil => exact le_rfl
  | cons d ds ih =>
    refine le_trans ?_ (ih (10 * n + (d.toNat - 48)))
    omega

/-- Digits that fit are all taken. -/
theorem absorb_eq {limit s : Nat} {cs : List Char} (h : Nat.ofDigitChars 10 cs s ≤ limit) :
    absorb limit s cs = (Nat.ofDigitChars 10 cs s, []) := by
  induction cs generalizing s with
  | nil => rfl
  | cons c cs ih =>
    have hfits : 10 * s + (c.toNat - 48) ≤ limit := (le_ofDigitChars _ cs).trans h
    rw [absorb, if_pos hfits]
    exact ih h

/-! ## (3) Short spellings -/

namespace NumberText

/-- The exponent that is written. -/
def writtenExponent : Option (ExponentSign × List Char) → Int
  | some (sign, digits) =>
    let value : Int := DecimalText.digitsValue digits
    if sign = .minus then -value else value
  | none => 0

/-- All digits as one natural. -/
def significand (n : NumberText) : Nat := DecimalText.digitsValue (n.whole ++ n.fraction.getD [])

/-- The power of ten that the digits are scaled by. -/
def scale (n : NumberText) : Int := writtenExponent n.exponent - (n.fraction.getD []).length

/-- **The number nearest to what is spelled.** -/
def nearest (n : NumberText) : Number := .ofDecimal n.negative n.significand n.scale

/-- **A short spelling**: digits of 53 bits, and a scale whose power of ten is a number. -/
structure Short (n : NumberText) : Prop where
  significand : n.significand < 2 ^ 53
  exponent : (writtenExponent n.exponent).natAbs ≤ maxExponent
  scale : n.scale.natAbs ≤ 22

instance (n : NumberText) : Decidable n.Short :=
  decidable_of_iff (n.significand < 2 ^ 53 ∧ (writtenExponent n.exponent).natAbs ≤ maxExponent ∧
    n.scale.natAbs ≤ 22) ⟨fun h => ⟨h.1, h.2.1, h.2.2⟩, fun h => ⟨h.1, h.2, h.3⟩⟩

theorem exponent?_eq {sign : ExponentSign} {digits : List Char}
    (h : (writtenExponent (some (sign, digits))).natAbs ≤ maxExponent) :
    exponent? sign digits = some (writtenExponent (some (sign, digits))) := by
  have hfits : Nat.ofDigitChars 10 digits 0 ≤ maxExponent := by
    rw [writtenExponent, DecimalText.digitsValue_eq] at h
    split at h
    · rwa [Int.natAbs_neg, Int.natAbs_natCast] at h
    · rwa [Int.natAbs_natCast] at h
  rw [exponent?, absorb_eq hfits]
  rfl

/-- **A short spelling is read as the nearest number.** -/
theorem toNumber?_of_short {n : NumberText} (h : n.Short) : n.toNumber? = some n.nearest := by
  have hsplit : n.significand
      = Nat.ofDigitChars 10 (n.fraction.getD []) (Nat.ofDigitChars 10 n.whole 0) := by
    rw [significand, DecimalText.digitsValue_eq, Nat.ofDigitChars_append]
  have hfits : n.significand ≤ maxSignificand := h.significand.le.trans (by decide)
  -- none of the digits is left
  have hwhole : absorb maxSignificand 0 n.whole = (Nat.ofDigitChars 10 n.whole 0, []) := by
    refine absorb_eq ((le_ofDigitChars _ (n.fraction.getD [])).trans ?_)
    rwa [← hsplit]
  have hplaces : absorb maxSignificand (Nat.ofDigitChars 10 n.whole 0) (n.fraction.getD [])
      = (n.significand, []) := by
    rw [hsplit] at hfits ⊢
    exact absorb_eq hfits
  have hscaled : (scale? (.ofNat n.significand) n.scale).map (withSign n.negative)
      = some n.nearest := by
    rw [scale?_ofNat h.significand h.scale, Option.map_some, withSign_ofDecimal, nearest]
  have hbase : ((0 : Nat) : Int) - (((n.fraction.getD []).length : Int) - (0 : Nat))
      = -((n.fraction.getD []).length : Int) := by
    omega
  rw [toNumber?, hwhole]
  dsimp only
  rw [hplaces]
  dsimp only [List.length_nil]
  rw [hbase]
  cases hexponent : n.exponent with
  | none =>
    have hscale : n.scale = -((n.fraction.getD []).length : Int) := by
      rw [scale, hexponent, writtenExponent, Int.zero_sub]
    rw [hscale] at hscaled
    cases hfraction : n.fraction with
    | some places =>
      rw [hfraction] at hscaled
      exact hscaled
    | none =>
      -- a whole number is not scaled at all
      rw [if_pos rfl, nearest, hscale, hfraction, ← withSign_ofDecimal]
      simp [Number.ofNat, ofDecimal]
  | some written =>
    obtain ⟨sign, digits⟩ := written
    have hread : exponent? sign digits = some (writtenExponent n.exponent) := by
      have hshort := h.exponent
      rw [hexponent] at hshort ⊢
      exact exponent?_eq hshort
    have hscale : n.scale = -((n.fraction.getD []).length : Int) + writtenExponent n.exponent := by
      rw [scale]
      omega
    rw [hscale] at hscaled
    -- with a point or without
    cases hfraction : n.fraction
    all_goals
      rw [hfraction] at hscaled
      dsimp only
      rw [hread]
      exact hscaled

end NumberText

/-! ## (4) Written numbers -/

/-- Without an exponent the spelling is that of a decimal text. -/
theorem nearest_of_parts (p : DecimalText.Parts) :
    NumberText.nearest ⟨p.negative, p.whole, p.fraction, none⟩ = p.toNumber := by
  have hscale : NumberText.scale ⟨p.negative, p.whole, p.fraction, none⟩
      = -((p.fraction.getD []).length : Int) := Int.zero_sub _
  rw [NumberText.nearest, hscale]
  rfl

/-- The exponent that is written for a power of ten is that power. -/
theorem writtenExponent_toDigits (e : Int) :
    NumberText.writtenExponent
      (some (if e < 0 then .minus else .plus, Nat.toDigits 10 e.natAbs)) = e := by
  have hdigits : DecimalText.digitsValue (Nat.toDigits 10 e.natAbs) = e.natAbs :=
    Nat.ofDigitChars_ten_toDigits
  rw [NumberText.writtenExponent, hdigits]
  by_cases hneg : e < 0
  · rw [if_pos hneg, if_pos rfl]
    omega
  · rw [if_neg hneg, if_neg (by decide)]
    omega

/-- **The spelling of a decimal spells its value.** -/
theorem nearest_spell (negative : Bool) (d : Decimal) :
    (spell negative d).nearest = .ofDecimal negative d.coefficient d.exponent := by
  have hlength : 0 < d.digits.length := List.length_pos_iff.2 Nat.toDigits_ne_nil
  unfold spell
  dsimp only
  split
  · split
    · -- the place after the point makes one zero more
      rename_i hnonneg
      have hdigits : DecimalText.digitsValue
          (d.digits ++ List.replicate d.exponent.toNat '0' ++ ['0'])
          = d.coefficient * 10 ^ (d.exponent.toNat + 1) := by
        rw [List.append_assoc, ← List.replicate_succ', DecimalText.digitsValue_append_zeros,
          Decimal.digitsValue_digits]
      have hzero : (-d.exponent).toNat = 0 := by omega
      show ofDecimal negative (DecimalText.digitsValue
        (d.digits ++ List.replicate d.exponent.toNat '0' ++ ['0'])) (0 - 1) = _
      rw [hdigits, ofDecimal, ofDecimal, hzero]
      refine ofRatio_congr negative (by decide) (by decide) ?_
      show d.coefficient * 10 ^ (d.exponent.toNat + 1) * 10 ^ 0 * 10 ^ 0
        = d.coefficient * 10 ^ d.exponent.toNat * 10 ^ 1
      ring
    · -- the point falls into the digits or before them, as in a plain text
      rename_i hneg
      have hplain := d.toNumber_plainParts negative
      unfold Decimal.plainParts at hplain
      dsimp only at hplain
      rw [if_neg hneg] at hplain
      split
      · rename_i hplaces
        rw [if_pos hplaces] at hplain
        exact (nearest_of_parts _).trans hplain
      · rename_i hplaces
        rw [if_neg hplaces] at hplain
        exact (nearest_of_parts _).trans hplain
  · have hfraction : (if d.digits.length ≤ 1 then none else some (d.digits.drop 1)).getD []
        = d.digits.drop 1 := by
      split
      · rename_i hone
        exact (List.drop_eq_nil_of_le hone).symm
      · rfl
    rw [NumberText.nearest, NumberText.significand, NumberText.scale, writtenExponent_toDigits,
      hfraction, List.take_append_drop, Decimal.digitsValue_digits, List.length_drop,
      Decimal.leadingExponent]
    congr 1
    omega

/-- **Every number is spelled so that it is the nearest one.** -/
theorem nearest_of_ofNumber {x : Number} {n : NumberText} (h : ofNumber x = .number n) :
    n.nearest = x := by
  cases x with
  | nan => cases h
  | infinite s => cases h
  | finite s m q hc =>
    rw [ofNumber] at h
    split at h
    · rename_i hm
      subst hm
      have hq : q = -1074 := hc.2.2.2.resolve_left (by decide)
      subst hq
      cases h
      rfl
    · rename_i hm
      cases h
      rw [nearest_spell]
      exact ofRatio_of_positive s (ofDecimal_shortest .even hc)

/-- **What is written for a number is read as that number**, where it is short. -/
theorem toNumber?_of_ofNumber {x : Number} {n : NumberText} (h : ofNumber x = .number n)
    (hshort : n.Short) : n.toNumber? = some x := by
  rw [NumberText.toNumber?_of_short hshort, nearest_of_ofNumber h]

end Json

end MediaTransform
