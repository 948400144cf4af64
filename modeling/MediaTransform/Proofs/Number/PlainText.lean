import MediaTransform.Proofs.Number.DecimalText
import MediaTransform.Proofs.Number.Rounding

/-! # Plain texts read back

The plain text of a finite number is in the decimal grammar and is read as the same number:

* **`Number.ofDecimal_shortest`** — the digits that are chosen read back.
* **`Decimal.plainParts`** — the parts that the positional layout spells.
* **`coerce_text`** — reading the text of a finite number gives the number.
* **`Number.mem_text_of_isFinite`** — which characters such a text has. -/

namespace MediaTransform

/-! ## (1) Decimals of one value -/

/-- Taking trailing zeros off changes no value. -/
theorem Number.ofDecimal_strip (negative : Bool) (coefficient : Nat) (exponent : Int) :
    ofDecimal negative (Decimal.strip coefficient exponent).coefficient
        (Decimal.strip coefficient exponent).exponent
      = ofDecimal negative coefficient exponent := by
  induction coefficient, exponent using Decimal.strip.induct with
  | case1 c e h ih =>
    have hmod : c % 10 = 0 := h.2
    rw [Decimal.strip, dif_pos h, ih, ofDecimal, ofDecimal]
    have hc : c / 10 * 10 = c := Nat.div_mul_cancel (Nat.dvd_of_mod_eq_zero hmod)
    refine ofRatio_congr negative (by positivity) (by positivity) ?_
    -- the power of ten that leaves the coefficient enters the exponent
    rcases lt_or_ge e 0 with he | he
    · have h1 : (e + 1).toNat = 0 := by omega
      have h2 : e.toNat = 0 := by omega
      have h3 : (-e).toNat = (-(e + 1)).toNat + 1 := by omega
      rw [h1, h2, h3, pow_succ]
      calc c / 10 * 10 ^ 0 * (10 ^ (-(e + 1)).toNat * 10)
          = c / 10 * 10 * 10 ^ (-(e + 1)).toNat := by ring
        _ = c * 10 ^ 0 * 10 ^ (-(e + 1)).toNat := by rw [hc]; ring
    · have h1 : (e + 1).toNat = e.toNat + 1 := by omega
      have h2 : (-(e + 1)).toNat = 0 := by omega
      have h3 : (-e).toNat = 0 := by omega
      rw [h1, h2, h3, pow_succ]
      calc c / 10 * (10 ^ e.toNat * 10) * 10 ^ 0 = c / 10 * 10 * 10 ^ e.toNat * 10 ^ 0 := by ring
        _ = c * 10 ^ e.toNat * 10 ^ 0 := by rw [hc]
  | case2 c e h => rw [Decimal.strip, dif_neg h]

/-- The exact decimal expansion of a number reads back. -/
theorem Number.ofDecimal_expansion {m : Nat} {q : Int} (h : Canonical m q) :
    ofDecimal false (m * 2 ^ q.toNat * 5 ^ (-q).toNat) (-((-q).toNat : Int))
      = .finite false m q h := by
  rw [ofDecimal]
  have h1 : (-((-q).toNat : Int)).toNat = 0 := by omega
  have h2 : (-(-((-q).toNat : Int))).toNat = (-q).toNat := by omega
  rw [h1, h2]
  refine ofRatio_exact false h (by positivity) ?_
  -- a negative power of two is as many fives above as many tens
  have hten : (10 : ℚ) ^ (-q).toNat = 2 ^ (-q).toNat * 5 ^ (-q).toNat := by
    rw [← mul_pow]
    norm_num
  push_cast
  rw [zpow_eq_div_pow two_ne_zero, hten]
  field_simp

/-! ## (2) The digits that are chosen -/

/-- A neighbour that is taken reads back. -/
theorem Number.readsBack_of_onGrid {tie : TieRule} {readsBack : Decimal → Bool} {num den : Nat}
    {exponent : Int} {d : Decimal} (h : onGrid tie readsBack num den exponent = some d) :
    readsBack d = true := by
  unfold onGrid at h
  dsimp only at h
  split at h
  · rename_i hlow
    split at h
    · rename_i hhigh
      split at h
      · cases h
        exact hlow
      · split at h
        · cases h
          exact hhigh
        · cases tie with
          | up =>
            cases h
            exact hhigh
          | even =>
            cases h
            split
            · exact hlow
            · exact hhigh
    · cases h
      exact hlow
  · split at h
    · rename_i hhigh
      cases h
      exact hhigh
    · cases h

/-- **The digits that are chosen read back as the number.** -/
theorem Number.ofDecimal_shortest (tie : TieRule) {m : Nat} {q : Int} (h : Canonical m q) :
    ofDecimal false (shortest tie m q h).coefficient (shortest tie m q h).exponent
      = .finite false m q h := by
  unfold shortest shortestBy
  dsimp only
  split
  · -- the search asks of each candidate that it reads back
    rename_i d hd
    obtain ⟨n, -, hgrid⟩ := List.exists_of_findSome?_eq_some hd
    rw [ofDecimal_strip]
    simpa using readsBack_of_onGrid hgrid
  · exact ofDecimal_expansion h

/-! ## (3) The positional layout -/

/-- The reader and the standard library agree on what a row of digits stands for. -/
theorem DecimalText.digitsValue_eq (cs : List Char) : digitsValue cs = Nat.ofDigitChars 10 cs 0 :=
  rfl

theorem DecimalText.digitsValue_append_zeros (cs : List Char) (n : Nat) :
    digitsValue (cs ++ List.replicate n '0') = digitsValue cs * 10 ^ n := by
  rw [digitsValue_eq, digitsValue_eq, Nat.ofDigitChars_append, Nat.ofDigitChars_replicate_zero,
    Nat.mul_comm]

theorem DecimalText.digitsValue_zeros_append (n : Nat) (cs : List Char) :
    digitsValue (List.replicate n '0' ++ cs) = digitsValue cs := by
  rw [digitsValue_eq, digitsValue_eq, Nat.ofDigitChars_append, Nat.ofDigitChars_replicate_zero,
    Nat.mul_zero]

theorem Decimal.digitsValue_digits (d : Decimal) : DecimalText.digitsValue d.digits = d.coefficient :=
  Nat.ofDigitChars_ten_toDigits

theorem Decimal.isDigit_of_mem_digits {d : Decimal} {c : Char} (h : c ∈ d.digits) :
    c.isDigit = true :=
  Nat.isDigit_of_mem_toDigits (by decide) (by decide) h

theorem isDigit_of_mem_zeros {n : Nat} {c : Char} (h : c ∈ List.replicate n '0') :
    c.isDigit = true := by
  rw [List.eq_of_mem_replicate h]
  decide

/-- **The parts that the positional layout of a decimal spells.** -/
def Decimal.plainParts (negative : Bool) (d : Decimal) : DecimalText.Parts :=
  let places := (-d.exponent).toNat
  if 0 ≤ d.exponent then ⟨negative, d.digits ++ List.replicate d.exponent.toNat '0', none⟩
  else if places < d.digits.length then
    ⟨negative, d.digits.take (d.digits.length - places),
      some (d.digits.drop (d.digits.length - places))⟩
  else ⟨negative, ['0'], some (List.replicate (places - d.digits.length) '0' ++ d.digits)⟩

theorem Decimal.negative_plainParts (negative : Bool) (d : Decimal) :
    (d.plainParts negative).negative = negative := by
  unfold plainParts
  dsimp only
  split
  · rfl
  · split <;> rfl

theorem Decimal.body_plainParts (negative : Bool) (d : Decimal) :
    (d.plainParts negative).body = d.plain := by
  unfold plainParts plain DecimalText.Parts.body
  dsimp only
  split
  · exact List.append_nil _
  · split <;> rfl

/-- The layout is in the grammar. -/
theorem Decimal.spells_plainParts (negative : Bool) (d : Decimal) :
    (d.plainParts negative).Spells ((if negative then ['-'] else []) ++ d.plain) := by
  have hdigit : ∀ c ∈ d.digits, c.isDigit = true := fun c hc => isDigit_of_mem_digits hc
  have hne : d.digits ≠ [] := Nat.toDigits_ne_nil
  have hparts : (∀ c ∈ (d.plainParts negative).whole, c.isDigit = true) ∧
      (∀ f ∈ (d.plainParts negative).fraction, ∀ c ∈ f, c.isDigit = true) ∧
      (d.plainParts negative).whole ≠ [] := by
    unfold plainParts
    dsimp only
    split
    · refine ⟨fun c hc => ?_, by simp, by simp [hne]⟩
      rcases List.mem_append.1 hc with hc | hc
      · exact hdigit c hc
      · exact isDigit_of_mem_zeros hc
    · split
      · rename_i hplaces
        refine ⟨fun c hc => hdigit c (List.mem_of_mem_take hc), ?_, ?_⟩
        · rintro f hf c hc
          cases hf
          exact hdigit c (List.mem_of_mem_drop hc)
        · simp [hne]
          omega
      · refine ⟨by simp, ?_, by simp⟩
        rintro f hf c hc
        cases hf
        rcases List.mem_append.1 hc with hc | hc
        · exact isDigit_of_mem_zeros hc
        · exact hdigit c hc
  refine ⟨hparts.1, hparts.2.1, .inl hparts.2.2, ?_⟩
  rw [negative_plainParts, body_plainParts]
  cases negative with
  | true => exact .inl ⟨rfl, rfl⟩
  | false => exact .inr ⟨rfl, .inl rfl⟩

/-- **The layout is read as the decimal that it lays out.** -/
theorem Decimal.toNumber_plainParts (negative : Bool) (d : Decimal) :
    (d.plainParts negative).toNumber = .ofDecimal negative d.coefficient d.exponent := by
  unfold plainParts DecimalText.Parts.toNumber
  dsimp only
  split
  · -- zeros after the digits are the power of ten
    rename_i he
    have h1 : (-d.exponent).toNat = 0 := by omega
    simp [DecimalText.digitsValue_append_zeros, digitsValue_digits, Number.ofDecimal, h1]
  · rename_i he
    split
    · -- the point falls between the digits
      rename_i hplaces
      have hlen : (d.digits.drop (d.digits.length - (-d.exponent).toNat)).length
          = (-d.exponent).toNat := by
        rw [List.length_drop]
        omega
      have hexp : (-((-d.exponent).toNat : Int)) = d.exponent := by omega
      simp only [Option.getD_some, List.take_append_drop, digitsValue_digits, hlen, hexp]
    · -- all digits stand after the point, behind zeros
      rename_i hplaces
      have hlen : (List.replicate ((-d.exponent).toNat - d.digits.length) '0' ++ d.digits).length
          = (-d.exponent).toNat := by
        rw [List.length_append, List.length_replicate]
        omega
      have hexp : (-((-d.exponent).toNat : Int)) = d.exponent := by omega
      have hvalue : DecimalText.digitsValue
          (['0'] ++ (List.replicate ((-d.exponent).toNat - d.digits.length) '0' ++ d.digits))
          = d.coefficient := by
        have hone : ['0'] = List.replicate 1 '0' := rfl
        rw [hone, DecimalText.digitsValue_zeros_append, DecimalText.digitsValue_zeros_append,
          digitsValue_digits]
      simp only [Option.getD_some, hvalue, hlen, hexp]

/-! ## (4) Numbers -/

/-- **The text of a finite number is read as the number.** -/
theorem coerce_text {x : Number} (h : x.isFinite = true) : coerce x.text = .number x := by
  cases x with
  | nan => cases h
  | infinite s => cases h
  | finite s m q hc =>
    by_cases hm : m = 0
    · -- the two zeros have texts of their own
      subst hm
      have hq : q = -1074 := hc.2.2.2.resolve_left (by decide)
      subst hq
      cases s
      · exact (by decide +kernel : coerce (Number.zero false).text = .number (Number.zero false))
      · exact (by decide +kernel : coerce (Number.zero true).text = .number (Number.zero true))
    · have hspells := (Number.shortest .up m q hc).spells_plainParts s
      have htext : (Number.finite s m q hc).text.toList
          = (if s then ['-'] else []) ++ (Number.shortest .up m q hc).plain := by
        rw [Number.text, String.toList_ofList, Number.plainChars, if_neg hm]
      rw [coerce_of_spells (htext ▸ hspells), Decimal.toNumber_plainParts, Value.number.injEq]
      exact Number.ofRatio_of_positive s (Number.ofDecimal_shortest .up hc)

/-- **The text of a finite number has digits, a minus sign and a point only.** -/
theorem Number.mem_text_of_isFinite {x : Number} (h : x.isFinite = true) {c : Char}
    (hc : c ∈ x.text.toList) : c.isDigit = true ∨ c = '-' ∨ c = '.' := by
  cases x with
  | nan => cases h
  | infinite s => cases h
  | finite s m q hcanonical =>
    rw [text, String.toList_ofList, plainChars] at hc
    rcases List.mem_append.1 hc with hsign | hdigits
    · cases s with
      | true => exact .inr (.inl (List.mem_singleton.1 hsign))
      | false => cases hsign
    · by_cases hm : m = 0
      · rw [if_pos hm] at hdigits
        rw [List.mem_singleton.1 hdigits]
        exact .inl (by decide)
      · rw [if_neg hm, ← Decimal.body_plainParts s] at hdigits
        exact ((Decimal.spells_plainParts s _).mem_body hdigits).imp_right .inr

/-- A character that is no digit, sign or point and in no name of a number stands in no text of a
number. -/
theorem Number.not_mem_text {c : Char}
    (hc : c.isDigit = false ∧ c ≠ '-' ∧ c ≠ '+' ∧ c ≠ '.') (hname : c ∉ ['i', 'n', 'f', 'N', 'a'])
    (x : Number) : c ∉ x.text.toList := by
  cases x with
  | finite s m q h => exact (isDecimal_of_coerce (coerce_text rfl)).not_mem hc
  | nan =>
    rw [text, String.toList_ofList, plainChars]
    intro hmem
    exact hname (by revert hmem; simp; tauto)
  | infinite s =>
    rw [text, String.toList_ofList, plainChars]
    intro hmem
    rcases List.mem_append.1 hmem with hsign | hletters
    · cases s with
      | true => exact hc.2.1 (List.mem_singleton.1 hsign)
      | false => cases hsign
    · exact hname (by revert hletters; simp; tauto)

end MediaTransform
