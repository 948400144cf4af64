import MediaTransform.Json.Number
import MediaTransform.Json.Reader
import MediaTransform.Json.Writer
import MediaTransform.Proofs.Number.PlainText

/-! # Strings and numbers of JSON read back

What is written for a string or a number is read as that string or number:

* **`Json.readString_writeString`** — a string, up to its closing quote, whatever follows.
* **`Json.NumberText.WellFormed`** — the spellings that the grammar of numbers allows;
  `readNumber_writeNumber` reads them back in front of anything that is no more of a number.
* **`Json.wellFormed_of_ofNumber`** — every number is spelled so. -/

namespace MediaTransform

namespace Json

/-! ## (1) Characters in strings -/

/-- A lower-case hexadecimal digit is read as its value. -/
theorem hexValue?_hexDigit {n : Nat} (h : n < 16) : hexValue? (hexDigit n) = some n := by
  revert n
  decide

/-- One unit read in front of the rest of a string. -/
theorem bind_unit (unit : Nat) (read : Option (List Nat × List Char)) :
    (do let (units, rest) ← read; return (unit :: units, rest))
      = read.map fun p => (unit :: p.1, p.2) := by
  cases read <;> rfl

theorem readUnits_shortEscape {c e : Char} (h : shortEscape? c = some e) (rest : List Char) :
    readUnits ('\\' :: c :: rest) = (readUnits rest).map fun p => (e.toNat :: p.1, p.2) := by
  have hu : c ≠ 'u' := by
    rintro rfl
    cases h
  rw [readUnits.eq_3 c rest fun _ _ _ _ _ hc _ => hu hc, h]
  exact bind_unit e.toNat (readUnits rest)

theorem readUnits_hexEscape {n : Nat} (h : n < 256) (rest : List Char) :
    readUnits ('\\' :: 'u' :: '0' :: '0' :: hexDigit (n / 16) :: hexDigit (n % 16) :: rest)
      = (readUnits rest).map fun p => (n :: p.1, p.2) := by
  have hzero : hexValue? '0' = some 0 := rfl
  have hunit : (0 * 16 + 0) * 256 + n / 16 * 16 + n % 16 = n := by omega
  rw [readUnits.eq_2, hzero, hexValue?_hexDigit (by omega : n / 16 < 16),
    hexValue?_hexDigit (by omega : n % 16 < 16)]
  dsimp only [bind, Option.bind]
  rw [hunit]
  exact bind_unit n (readUnits rest)

theorem readUnits_plain {c : Char} (hquote : c ≠ '"') (hslash : c ≠ '\\') (hplain : 32 ≤ c.toNat)
    (rest : List Char) :
    readUnits (c :: rest) = (readUnits rest).map fun p => (c.toNat :: p.1, p.2) := by
  have hnot : ¬(c = '\\' ∨ c.toNat < 32) := by
    rintro (heq | hlt)
    · exact hslash heq
    · omega
  rw [readUnits.eq_4 c rest hquote (fun _ _ _ _ _ h _ => hslash h) (fun _ _ h _ => hslash h),
    if_neg hnot]
  exact bind_unit c.toNat (readUnits rest)

/-- **The three ways of writing a character**: a letter for it, its code, or itself. -/
theorem escapeChar_cases (c : Char) :
    (∃ d, escapeChar c = ['\\', d] ∧ shortEscape? d = some c) ∨
      (c.toNat < 32 ∧ escapeChar c
        = ['\\', 'u', '0', '0', hexDigit (c.toNat / 16), hexDigit (c.toNat % 16)]) ∨
      (c ≠ '"' ∧ c ≠ '\\' ∧ 32 ≤ c.toNat ∧ escapeChar c = [c]) := by
  unfold escapeChar
  -- the seven letters
  iterate 7
    split
    · rename_i heq
      subst heq
      exact .inl ⟨_, rfl, rfl⟩
  split
  · rename_i hcontrol
    exact .inr (.inl ⟨hcontrol, rfl⟩)
  · rename_i hquote hslash _ _ _ _ _ hplain
    exact .inr (.inr ⟨hquote, hslash, Nat.le_of_not_lt hplain, rfl⟩)

/-- **The escape of a character is read as its code unit.** -/
theorem readUnits_escapeChar (c : Char) (rest : List Char) :
    readUnits (escapeChar c ++ rest) = (readUnits rest).map fun p => (c.toNat :: p.1, p.2) := by
  rcases escapeChar_cases c with
    ⟨d, hescape, hd⟩ | ⟨hcontrol, hescape⟩ | ⟨hquote, hslash, hplain, hescape⟩
  · rw [hescape]
    exact readUnits_shortEscape hd rest
  · rw [hescape]
    exact readUnits_hexEscape (by omega) rest
  · rw [hescape]
    exact readUnits_plain hquote hslash hplain rest

/-- An escaped text is read up to its closing quote, as its code units. -/
theorem readUnits_escape (cs rest : List Char) :
    readUnits (escape cs ++ '"' :: rest) = some (cs.map Char.toNat, rest) := by
  induction cs with
  | nil => exact readUnits.eq_1 rest
  | cons c cs ih =>
    rw [escape, List.flatMap_cons, List.append_assoc, readUnits_escapeChar, ← escape, ih]
    rfl

/-! ## (2) Strings -/

/-- No character is half of a surrogate pair. -/
theorem not_surrogate (c : Char) :
    isHighSurrogate c.toNat = false ∧ isLowSurrogate c.toNat = false := by
  have hvalid : c.toNat < 0xd800 ∨ 0xdfff < c.toNat ∧ c.toNat < 0x110000 := c.valid
  simp only [isHighSurrogate, isLowSurrogate, Bool.and_eq_false_iff, decide_eq_false_iff_not]
  omega

/-- **The code units of characters are those characters.** -/
theorem charsOfUnits_map_toNat (cs : List Char) : charsOfUnits (cs.map Char.toNat) = some cs := by
  induction cs with
  | nil => rfl
  | cons c cs ih =>
    obtain ⟨hhigh, hlow⟩ := not_surrogate c
    cases cs with
    | nil => simp [charsOfUnits, hhigh, hlow]
    | cons d ds =>
      rw [List.map_cons] at ih
      simp [charsOfUnits, hhigh, hlow, ih]

/-- **A written string is read back**, up to its closing quote. The one without a text is written
as half of a surrogate pair, which has none either. -/
theorem readString_writeString (s : StringText) :
    ∃ body, writeString s = '"' :: body ∧
      ∀ rest, readString (body ++ rest) = some (s, rest) := by
  cases s with
  | some t =>
    refine ⟨_, rfl, fun rest => ?_⟩
    rw [List.append_assoc, List.singleton_append, readString, readUnits_escape]
    simp [charsOfUnits_map_toNat]
  | none =>
    refine ⟨['\\', 'u', 'd', '8', '0', '0', '"'], rfl, fun rest => ?_⟩
    have hunits :
        readUnits (['\\', 'u', 'd', '8', '0', '0', '"'] ++ rest) = some ([0xd800], rest) := rfl
    rw [readString, hunits]
    rfl

/-! ## (3) Spelled numbers -/

/-- **A row of digits**, of which there is one at least. -/
def IsRow (ds : List Char) : Prop := ds ≠ [] ∧ ∀ c ∈ ds, c.isDigit = true

/-- **A spelling that the grammar of numbers allows**: rows of digits, with no zero in front of the
whole ones unless it stands alone. -/
structure NumberText.WellFormed (n : NumberText) : Prop where
  whole : n.whole = ['0'] ∨ IsRow n.whole ∧ n.whole.head? ≠ some '0'
  fraction : ∀ ds ∈ n.fraction, IsRow ds
  exponent : ∀ e ∈ n.exponent, IsRow e.2

/-- **What may follow a number**: nothing that could be more of it. -/
def EndsNumber (rest : List Char) : Prop :=
  ∀ c ∈ rest.head?, c.isDigit = false ∧ c ≠ '.' ∧ c ≠ 'e' ∧ c ≠ 'E'

/-- The point and the places after it. -/
def writeFraction : Option (List Char) → List Char
  | some places => '.' :: places
  | none => []

/-- The exponent after its letter. -/
def writeExponent : Option (ExponentSign × List Char) → List Char
  | some (sign, digits) => 'e' :: (writeExponentSign sign ++ digits)
  | none => []

theorem writeNumber_eq (n : NumberText) :
    writeNumber n = (if n.negative then ['-'] else []) ++
      (n.whole ++ (writeFraction n.fraction ++ writeExponent n.exponent)) := by
  rw [writeNumber, List.append_assoc, List.append_assoc]
  rfl

theorem readDigits_append {ds rest : List Char} (h : IsRow ds)
    (hrest : ∀ c ∈ rest.head?, c.isDigit = false) : readDigits (ds ++ rest) = some (ds, rest) := by
  obtain ⟨htake, hdrop⟩ := DecimalText.span_digits h.2 hrest
  rw [readDigits, htake, hdrop, if_neg h.1]

theorem isRow_whole {n : NumberText} (h : n.WellFormed) : IsRow n.whole := by
  rcases h.whole with hzero | ⟨hrow, -⟩
  · rw [hzero]
    exact ⟨by simp, by simp⟩
  · exact hrow

theorem readWhole_append {n : NumberText} {rest : List Char} (h : n.WellFormed)
    (hrest : ∀ c ∈ rest.head?, c.isDigit = false) :
    readWhole (n.whole ++ rest) = some (n.whole, rest) := by
  rcases h.whole with hzero | ⟨hrow, hhead⟩
  · rw [hzero, List.singleton_append, readWhole]
    cases rest with
    | nil => rfl
    | cons c cs => simp [hrest c rfl]
  · rw [readWhole.eq_2]
    · exact readDigits_append hrow hrest
    · intro rest' heq
      cases hwhole : n.whole with
      | nil => exact hrow.1 hwhole
      | cons c cs =>
        rw [hwhole, List.cons_append, List.cons.injEq] at heq
        rw [hwhole, heq.1] at hhead
        exact hhead rfl

theorem readFraction_append {fraction : Option (List Char)} {rest : List Char}
    (h : ∀ ds ∈ fraction, IsRow ds) (hrest : ∀ c ∈ rest.head?, c.isDigit = false ∧ c ≠ '.') :
    readFraction (writeFraction fraction ++ rest) = some (fraction, rest) := by
  cases fraction with
  | some places =>
    rw [writeFraction, List.cons_append, readFraction,
      readDigits_append (h places rfl) fun c hc => (hrest c hc).1]
    rfl
  | none =>
    rw [writeFraction, List.nil_append, readFraction.eq_2]
    rintro rest' rfl
    exact (hrest '.' rfl).2 rfl

theorem readExponentSign_append (sign : ExponentSign) {ds : List Char} (h : IsRow ds)
    (rest : List Char) :
    readExponentSign (writeExponentSign sign ++ ds ++ rest) = (sign, ds ++ rest) := by
  cases sign with
  | plus => rfl
  | minus => rfl
  | none =>
    -- a digit is no sign
    obtain ⟨hne, hdigit⟩ := h
    cases ds with
    | nil => exact absurd rfl hne
    | cons c cs =>
      have hc := hdigit c List.mem_cons_self
      rw [writeExponentSign, List.nil_append, List.cons_append, readExponentSign.eq_3]
      · rintro rest' heq
        cases heq
        exact absurd hc (by decide)
      · rintro rest' heq
        cases heq
        exact absurd hc (by decide)

theorem readExponent_append {exponent : Option (ExponentSign × List Char)} {rest : List Char}
    (h : ∀ e ∈ exponent, IsRow e.2) (hrest : EndsNumber rest) :
    readExponent (writeExponent exponent ++ rest) = some (exponent, rest) := by
  cases exponent with
  | some e =>
    obtain ⟨sign, ds⟩ := e
    have hrow : IsRow ds := h (sign, ds) rfl
    rw [writeExponent, List.cons_append, readExponent, if_pos (.inl rfl),
      readExponentSign_append sign hrow]
    dsimp only
    rw [readDigits_append hrow fun c hc => (hrest c hc).1]
    rfl
  | none =>
    rw [writeExponent, List.nil_append]
    cases rest with
    | nil => rfl
    | cons c cs =>
      obtain ⟨-, -, he, hE⟩ := hrest c rfl
      rw [readExponent, if_neg (by simp [he, hE])]

theorem readMinus_append (negative : Bool) {ds : List Char} (h : IsRow ds) (rest : List Char) :
    readMinus ((if negative then ['-'] else []) ++ (ds ++ rest)) = (negative, ds ++ rest) := by
  cases negative with
  | true => rfl
  | false =>
    obtain ⟨hne, hdigit⟩ := h
    cases ds with
    | nil => exact absurd rfl hne
    | cons c cs =>
      have hc := hdigit c List.mem_cons_self
      rw [if_neg (by decide), List.nil_append, List.cons_append, readMinus.eq_2]
      rintro rest' heq
      cases heq
      exact absurd hc (by decide)

/-- **A spelled number is read back**, with what follows it left over. -/
theorem readNumber_writeNumber {n : NumberText} {rest : List Char} (h : n.WellFormed)
    (hrest : EndsNumber rest) : readNumber (writeNumber n ++ rest) = some (n, rest) := by
  have hexponent : ∀ c ∈ (writeExponent n.exponent ++ rest).head?, c.isDigit = false ∧ c ≠ '.' := by
    cases n.exponent with
    | none => exact fun c hc => ⟨(hrest c hc).1, (hrest c hc).2.1⟩
    | some e =>
      rintro c ⟨⟩
      decide
  have hfraction : ∀ c ∈ (writeFraction n.fraction ++ (writeExponent n.exponent ++ rest)).head?,
      c.isDigit = false := by
    cases n.fraction with
    | none => exact fun c hc => (hexponent c hc).1
    | some places =>
      rintro c ⟨⟩
      decide
  have htext : writeNumber n ++ rest = (if n.negative then ['-'] else []) ++
      (n.whole ++ (writeFraction n.fraction ++ (writeExponent n.exponent ++ rest))) := by
    simp only [writeNumber_eq, List.append_assoc]
  rw [readNumber, htext, readMinus_append n.negative (isRow_whole h)]
  dsimp only [bind, Option.bind]
  rw [readWhole_append h hfraction]
  dsimp only
  rw [readFraction_append h.fraction hexponent]
  dsimp only
  rw [readExponent_append h.exponent hrest]
  rfl

/-! ## (4) The spelling of a number -/

/-- A positive natural is written without a leading zero. -/
theorem head?_toDigits {n : Nat} (h : 0 < n) : (Nat.toDigits 10 n).head? ≠ some '0' := by
  induction n using Nat.strong_induction_on with
  | _ n ih =>
    by_cases hlt : n < 10
    · have hdigit : ∀ k < 10, 0 < k → [k.digitChar].head? ≠ some '0' := by decide
      rw [Nat.toDigits_of_lt_base hlt]
      exact hdigit n hlt h
    · rw [Nat.toDigits_of_base_le (by decide) (Nat.le_of_not_lt hlt),
        List.head?_append_of_ne_nil _ Nat.toDigits_ne_nil]
      exact ih (n / 10) (by omega) (by omega)

/-- A natural is written as a row of digits. -/
theorem isRow_toDigits (n : Nat) : IsRow (Nat.toDigits 10 n) :=
  ⟨Nat.toDigits_ne_nil, fun _ hc => Nat.isDigit_of_mem_toDigits (by decide) (by decide) hc⟩

/-- **A decimal that is not zero is spelled as the grammar allows.** -/
theorem wellFormed_spell (negative : Bool) {d : Decimal} (h : 0 < d.coefficient) :
    (spell negative d).WellFormed := by
  have hhead : d.digits.head? ≠ some '0' := head?_toDigits h
  obtain ⟨hne, hdigit⟩ : IsRow d.digits := isRow_toDigits d.coefficient
  have hlength : 0 < d.digits.length := List.length_pos_iff.2 hne
  -- the first digits are a row that begins as all of them do
  have htake : ∀ k, 0 < k →
      IsRow (d.digits.take k) ∧ (d.digits.take k).head? ≠ some '0' := by
    intro k hk
    refine ⟨⟨?_, fun c hc => hdigit c (List.mem_of_mem_take hc)⟩, ?_⟩
    · rw [Ne, List.take_eq_nil_iff, not_or]
      exact ⟨by omega, hne⟩
    · rw [List.head?_take, if_neg (by omega)]
      exact hhead
  have hdrop : ∀ k, k < d.digits.length → IsRow (d.digits.drop k) := by
    intro k hk
    refine ⟨?_, fun c hc => hdigit c (List.mem_of_mem_drop hc)⟩
    rw [Ne, List.drop_eq_nil_iff]
    omega
  unfold spell
  dsimp only
  split
  · split
    · refine ⟨.inr ⟨⟨by simp [hne], ?_⟩, ?_⟩, ?_, by simp⟩
      · intro c hc
        rcases List.mem_append.1 hc with hc | hc
        · exact hdigit c hc
        · exact isDigit_of_mem_zeros hc
      · rw [List.head?_append_of_ne_nil _ hne]
        exact hhead
      · rintro ds ⟨⟩
        exact ⟨by simp, by simp⟩
    · split
      · refine ⟨.inr (htake _ (by omega)), ?_, by simp⟩
        rintro ds ⟨⟩
        exact hdrop _ (by omega)
      · refine ⟨.inl rfl, ?_, by simp⟩
        rintro ds ⟨⟩
        refine ⟨by simp [hne], fun c hc => ?_⟩
        rcases List.mem_append.1 hc with hc | hc
        · exact isDigit_of_mem_zeros hc
        · exact hdigit c hc
  · refine ⟨.inr (htake 1 (by decide)), ?_, ?_⟩
    · intro ds hds
      split at hds
      · cases hds
      · cases hds
        exact hdrop 1 (by omega)
    · rintro e ⟨⟩
      exact isRow_toDigits _

/-- The shortest decimal of a number that is not zero is not zero. -/
theorem coefficient_shortest_pos (tie : TieRule) {m : Nat} {q : Int} (h : Number.Canonical m q)
    (hm : m ≠ 0) : 0 < (Number.shortest tie m q h).coefficient := by
  refine Nat.pos_of_ne_zero fun hzero => hm ?_
  have hreads := Number.ofDecimal_shortest tie h
  rw [hzero, Number.ofDecimal, Nat.zero_mul, Number.ofRatio_zero, Number.zero] at hreads
  cases hreads
  rfl

/-- **Every number is written as the grammar allows.** -/
theorem wellFormed_of_ofNumber {x : Number} {n : NumberText} (h : ofNumber x = .number n) :
    n.WellFormed := by
  cases x with
  | nan => cases h
  | infinite s => cases h
  | finite s m q hc =>
    rw [ofNumber] at h
    split at h
    · cases h
      refine ⟨.inl rfl, ?_, by simp⟩
      rintro ds ⟨⟩
      exact ⟨by simp, by simp⟩
    · rename_i hm
      cases h
      exact wellFormed_spell s (coefficient_shortest_pos .even hc hm)

end Json

end MediaTransform
