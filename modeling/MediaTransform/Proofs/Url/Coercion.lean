import MediaTransform.Proofs.Number.Nearest
import MediaTransform.Proofs.Number.PlainText

/-! # What raw texts are read as

The decimal grammar with the value that each text of it writes, and reading as rounding:

* **`DecimalText.Writes`** — the texts of the grammar, with their sign and the rational that they
  write; `writes_iff` ties it to the parts that the reader takes.
* **`coerce_eq_number_iff_isNearest`** — a text is read as a number exactly where it is in the
  grammar, and then as the number nearest to what it writes; every other text stays as it is.
* **`coerce_stable_iff`** — what is printed for a value reads back as the value exactly where the
  text does not write a value beyond the numbers. -/

namespace MediaTransform

namespace DecimalText

/-! ## (1) The grammar and its values -/

/-- **The natural that a row of digits writes**: each digit counts for the power of ten of the places
after it. -/
def rowValue : List Char → Nat
  | [] => 0
  | c :: cs => (c.toNat - '0'.toNat) * 10 ^ cs.length + rowValue cs

/-- Only ASCII digits. -/
def IsRow (cs : List Char) : Prop := ∀ c ∈ cs, c.isDigit = true

/-- **Decimals without a sign**, and what they write: digits, digits with a point after any of them,
or a point and digits. -/
inductive Unsigned : List Char → ℚ → Prop where
  | whole {ds : List Char} (digits : IsRow ds) (some_digit : ds ≠ []) : Unsigned ds (rowValue ds)
  | pointed {ds fs : List Char} (digits : IsRow ds) (some_digit : ds ≠ []) (places : IsRow fs) :
      Unsigned (ds ++ '.' :: fs) (rowValue ds + rowValue fs / 10 ^ fs.length)
  | fraction {fs : List Char} (places : IsRow fs) (some_digit : fs ≠ []) :
      Unsigned ('.' :: fs) (rowValue fs / 10 ^ fs.length)

/-- **Decimals with at most one sign**: whether they are negative, and the magnitude they write. -/
inductive Writes : List Char → Bool → ℚ → Prop where
  | bare {cs : List Char} {v : ℚ} (h : Unsigned cs v) : Writes cs false v
  | plus {cs : List Char} {v : ℚ} (h : Unsigned cs v) : Writes ('+' :: cs) false v
  | minus {cs : List Char} {v : ℚ} (h : Unsigned cs v) : Writes ('-' :: cs) true v

/-! ## (2) The parts of a decimal -/

theorem rowValue_append (ds fs : List Char) :
    rowValue (ds ++ fs) = rowValue ds * 10 ^ fs.length + rowValue fs := by
  induction ds with
  | nil => simp [rowValue]
  | cons c cs ih =>
    rw [List.cons_append, rowValue, rowValue, ih, List.length_append, pow_add]
    ring

/-- The reader sums the digits up from the left. -/
theorem digitsValue_eq_rowValue (cs : List Char) : digitsValue cs = rowValue cs := by
  induction cs using List.reverseRecOn with
  | nil => rfl
  | append_singleton cs c ih =>
    have hone : rowValue [c] = c.toNat - 48 := by simp [rowValue]
    rw [rowValue_append, hone, ← ih, digitsValue, List.foldl_append]
    simp only [List.foldl_cons, List.foldl_nil, List.length_singleton, pow_one]
    rw [Nat.mul_comm]
    rfl

/-- **The magnitude that parts write.** -/
def Parts.value (p : Parts) : ℚ :=
  rowValue (p.whole ++ p.fraction.getD []) / 10 ^ (p.fraction.getD []).length

/-- **Parts become the number nearest to what they write.** -/
theorem Parts.isNearest_toNumber (p : Parts) :
    Number.IsNearest p.negative p.value p.toNumber := by
  have hnear := Number.isNearest_ofRatio p.negative (rowValue (p.whole ++ p.fraction.getD []))
    (by positivity : 0 < 10 ^ (p.fraction.getD []).length)
  have hexponent : (-((p.fraction.getD []).length : Int)).toNat = 0 := by omega
  have hnumber : p.toNumber = .ofRatio p.negative (rowValue (p.whole ++ p.fraction.getD []))
      (10 ^ (p.fraction.getD []).length) := by
    rw [toNumber, digitsValue_eq_rowValue]
    simp [Number.ofDecimal]
  rw [hnumber, value]
  exact_mod_cast hnear

/-- The body of parts is a decimal without a sign. -/
theorem Parts.unsigned_body {p : Parts} (hwhole : IsRow p.whole)
    (hfraction : ∀ f ∈ p.fraction, IsRow f) (hsome : p.whole ≠ [] ∨ ∃ f ∈ p.fraction, f ≠ []) :
    Unsigned p.body p.value := by
  obtain ⟨negative, whole, fraction⟩ := p
  cases fraction with
  | none =>
    have hvalue : Parts.value ⟨negative, whole, none⟩ = rowValue whole := by simp [value]
    have hbody : Parts.body ⟨negative, whole, none⟩ = whole := List.append_nil whole
    rw [hvalue, hbody]
    exact .whole hwhole (hsome.resolve_right (by simp))
  | some f =>
    by_cases hempty : whole = []
    · subst hempty
      refine .fraction (hfraction f rfl) ?_
      obtain ⟨f', hf', hne⟩ := hsome.resolve_left (by simp)
      cases hf'
      exact hne
    · have hvalue : Parts.value ⟨negative, whole, some f⟩
          = rowValue whole + rowValue f / 10 ^ f.length := by
        simp only [value, Option.getD_some, rowValue_append]
        push_cast
        rw [add_div, mul_div_cancel_right₀ _ (by positivity)]
      rw [hvalue]
      exact .pointed hwhole hempty (hfraction f rfl)

/-- **A decimal without a sign is the body of parts** that write the same. -/
theorem Unsigned.exists_parts {cs : List Char} {v : ℚ} (h : Unsigned cs v) (negative : Bool) :
    ∃ p : Parts, p.negative = negative ∧ p.body = cs ∧ p.value = v ∧ IsRow p.whole ∧
      (∀ f ∈ p.fraction, IsRow f) ∧ (p.whole ≠ [] ∨ ∃ f ∈ p.fraction, f ≠ []) := by
  cases h with
  | whole digits some_digit =>
    refine ⟨⟨negative, cs, none⟩, rfl, List.append_nil cs, ?_, digits, by simp, .inl some_digit⟩
    simp [Parts.value]
  | @pointed ds fs digits some_digit places =>
    refine ⟨⟨negative, ds, some fs⟩, rfl, rfl, ?_, digits, ?_, .inl some_digit⟩
    · simp only [Parts.value, Option.getD_some, rowValue_append]
      push_cast
      rw [add_div, mul_div_cancel_right₀ _ (by positivity)]
    · rintro f hf
      cases hf
      exact places
  | @fraction fs places some_digit =>
    refine ⟨⟨negative, [], some fs⟩, rfl, rfl, by simp [Parts.value], by simp [IsRow], ?_,
      .inr ⟨fs, rfl, some_digit⟩⟩
    rintro f hf
    cases hf
    exact places

/-- **The texts that are written are those that parts spell**, with the sign and the magnitude of the
parts. -/
theorem writes_iff {cs : List Char} {negative : Bool} {v : ℚ} :
    Writes cs negative v ↔ ∃ p : Parts, p.Spells cs ∧ p.negative = negative ∧ p.value = v := by
  constructor
  · rintro (h | h | h)
    · obtain ⟨p, hnegative, hbody, hvalue, hwhole, hfraction, hsome⟩ := h.exists_parts false
      exact ⟨p, ⟨hwhole, hfraction, hsome, .inr ⟨hnegative, .inl hbody.symm⟩⟩, hnegative, hvalue⟩
    · obtain ⟨p, hnegative, rfl, hvalue, hwhole, hfraction, hsome⟩ := h.exists_parts false
      exact ⟨p, ⟨hwhole, hfraction, hsome, .inr ⟨hnegative, .inr rfl⟩⟩, hnegative, hvalue⟩
    · obtain ⟨p, hnegative, rfl, hvalue, hwhole, hfraction, hsome⟩ := h.exists_parts true
      exact ⟨p, ⟨hwhole, hfraction, hsome, .inl ⟨hnegative, rfl⟩⟩, hnegative, hvalue⟩
  · rintro ⟨p, hspells, rfl, rfl⟩
    have hbody := p.unsigned_body hspells.whole hspells.fraction hspells.some_digit
    rcases hspells.sign with ⟨hnegative, rfl⟩ | ⟨hnegative, rfl | rfl⟩
    · rw [hnegative]
      exact .minus hbody
    · rw [hnegative]
      exact .bare hbody
    · rw [hnegative]
      exact .plus hbody

/-- The grammar, without the values. -/
theorem isDecimal_iff_writes {cs : List Char} :
    IsDecimal cs ↔ ∃ negative v, Writes cs negative v := by
  simp only [writes_iff]
  constructor
  · rintro ⟨p, hp⟩
    exact ⟨p.negative, p.value, p, hp, rfl, rfl⟩
  · rintro ⟨_, _, p, hp, -, -⟩
    exact ⟨p, hp⟩

end DecimalText

open DecimalText

/-! ## (3) Reading -/

variable {raw : String}

/-- **A text of the grammar is read as the number nearest to what it writes.** -/
theorem exists_isNearest_of_writes {negative : Bool} {v : ℚ} (h : Writes raw.toList negative v) :
    ∃ x, coerce raw = .number x ∧ Number.IsNearest negative v x := by
  obtain ⟨p, hspells, rfl, rfl⟩ := writes_iff.1 h
  exact ⟨p.toNumber, coerce_of_spells hspells, p.isNearest_toNumber⟩

/-- **Which texts are numbers, and which numbers they are.** A text is read as a number exactly where
it is in the grammar: at most one sign, then digits with at most one point after any of them or a
point and digits. It is then the number nearest to the decimal that is written, and no other one. A
text outside the grammar stays as it is, with all its characters. -/
theorem coerce_eq_number_iff_isNearest (raw : String) :
    ((∃ x, coerce raw = .number x) ↔ ∃ negative v, Writes raw.toList negative v) ∧
      (∀ negative v, Writes raw.toList negative v →
        ∀ x, coerce raw = .number x ↔ Number.IsNearest negative v x) ∧
      (coerce raw = .text raw ↔ ¬∃ negative v, Writes raw.toList negative v) := by
  refine ⟨⟨?_, ?_⟩, fun negative v h x => ?_, ?_⟩
  · rintro ⟨x, hx⟩
    exact isDecimal_iff_writes.1 (isDecimal_of_coerce hx)
  · rintro ⟨negative, v, h⟩
    obtain ⟨x, hx, -⟩ := exists_isNearest_of_writes h
    exact ⟨x, hx⟩
  · obtain ⟨y, hy, hnear⟩ := exists_isNearest_of_writes h
    rw [hy, Value.number.injEq]
    exact ⟨fun heq => heq ▸ hnear, hnear.unique⟩
  · rw [coerce_eq_text_iff, isDecimal_iff_writes]
    exact and_iff_right rfl

/-! ## (4) Reading what is printed -/

/-- **A text writes no value beyond the numbers.** -/
def InRange (raw : String) : Prop :=
  ∀ negative v, Writes raw.toList negative v → v < Number.overflow

/-- In range, numbers are finite. -/
theorem InRange.isFinite (h : InRange raw) {x : Number} (hx : coerce raw = .number x) :
    x.isFinite = true := by
  obtain ⟨negative, v, hwrites⟩ := isDecimal_iff_writes.1 (isDecimal_of_coerce hx)
  obtain ⟨y, hy, hnear⟩ := exists_isNearest_of_writes hwrites
  cases hx.symm.trans hy
  exact hnear.isFinite_iff.2 (h negative v hwrites)

/-- A finite number is that of a text in range. -/
theorem inRange_of_isFinite (h : ∀ x, coerce raw = .number x → x.isFinite = true) :
    InRange raw := by
  intro negative v hwrites
  obtain ⟨x, hx, hnear⟩ := exists_isNearest_of_writes hwrites
  exact hnear.isFinite_iff.1 (h x hx)

/-- **The text of an infinity is read as a text.** -/
theorem coerce_text_infinite (negative : Bool) :
    coerce (Number.infinite negative).text = .text (Number.infinite negative).text := by
  refine coerce_eq_text_iff.2 ⟨rfl, ?_⟩
  cases negative <;> decide

/-- A text is never read as not-a-number. -/
theorem coerce_ne_nan : coerce raw ≠ .number .nan := by
  intro h
  obtain ⟨negative, v, hwrites⟩ := isDecimal_iff_writes.1 (isDecimal_of_coerce h)
  obtain ⟨y, hy, hnear⟩ := exists_isNearest_of_writes hwrites
  cases h.symm.trans hy
  cases hnear

/-- Where the printed value reads back, the value is finite or a text. -/
theorem isFinite_of_stable (h : coerce (coerce raw).display = coerce raw) {x : Number}
    (hx : coerce raw = .number x) : x.isFinite = true := by
  cases x with
  | finite s m q hm => rfl
  | nan => exact absurd hx coerce_ne_nan
  | infinite s =>
    rw [hx, Value.display, coerce_text_infinite] at h
    cases h

/-- **Reading is stable exactly in range.** Numbers are finite exactly where the text writes no value
beyond them; and what is printed for a value, number or text, is read back as the same value exactly
there too. -/
theorem coerce_stable_iff (raw : String) :
    ((∀ x, coerce raw = .number x → x.isFinite = true) ↔ InRange raw) ∧
      (coerce (coerce raw).display = coerce raw ↔ InRange raw) := by
  refine ⟨⟨inRange_of_isFinite, fun h x => h.isFinite⟩,
    fun h => inRange_of_isFinite fun x => isFinite_of_stable h, fun h => ?_⟩
  cases hvalue : coerce raw with
  | number x => exact coerce_text (h.isFinite hvalue)
  | text t =>
    obtain ⟨rfl, -⟩ := coerce_eq_text_iff.1 hvalue
    exact hvalue

/-- **Which texts are printed as they are written**: those that are no numbers, and among the others
those that printing gives for a number. -/
theorem display_coerce_eq_iff :
    (coerce raw).display = raw ↔
      ¬IsDecimal raw.toList ∨ ∃ x : Number, x.isFinite = true ∧ raw = x.text := by
  constructor
  · intro h
    cases hvalue : coerce raw with
    | text t => exact .inl (coerce_eq_text_iff.1 hvalue).2
    | number x =>
      rw [hvalue, Value.display] at h
      refine .inr ⟨x, isFinite_of_stable ?_ hvalue, h.symm⟩
      rw [hvalue, Value.display, h, hvalue]
  · rintro (htext | ⟨x, hfinite, rfl⟩)
    · rw [coerce_eq_text_iff.2 ⟨rfl, htext⟩, Value.display]
    · rw [coerce_text hfinite, Value.display]

/-- Ten to the power of 309, written out. -/
def longText : String := String.ofList ('1' :: List.replicate 309 '0')

/-- **A long row of digits is read as an infinity**, and what is printed for it, as a text. -/
theorem not_stable_longText :
    ¬((∀ x, coerce longText = .number x → x.isFinite = true) ∧
      coerce (coerce longText).display = coerce longText) := by
  have htext : longText.toList = '1' :: List.replicate 309 '0' := String.toList_ofList
  have hspells : DecimalText.Parts.Spells ⟨false, '1' :: List.replicate 309 '0', none⟩
      longText.toList := by
    refine ⟨fun c hc => ?_, fun f hf => absurd hf (Option.not_mem_none f),
      .inl (List.cons_ne_nil _ _), .inr ⟨rfl, .inl (htext.trans (List.append_nil _).symm)⟩⟩
    rcases List.mem_cons.1 hc with rfl | hzero
    · rfl
    · exact isDigit_of_mem_zeros hzero
  have hinfinite : DecimalText.Parts.toNumber ⟨false, '1' :: List.replicate 309 '0', none⟩
      = .infinite false := by decide +kernel
  intro h
  have hfinite := h.1 _ (coerce_of_spells hspells)
  rw [hinfinite] at hfinite
  cases hfinite

end MediaTransform
