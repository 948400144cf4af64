import MediaTransform.Url.Coerce

/-! # The decimal grammar

Which texts are read as numbers, said without the reader:

* **`DecimalText.Parts.Spells`** — the texts of a sign, digits and perhaps a point among them.
* **`DecimalText.parts?_eq_some_iff`** — the reader finds exactly the parts that spell a text.
* **`coerce_eq_text_iff`** — every text outside the grammar stays a text.
* **`toString_nat_injective`** — no two naturals have one numeral. -/

namespace MediaTransform

namespace DecimalText

/-! ## (1) Spellings -/

/-- The digits of the parts, with the point between them if there is one. -/
def Parts.body (p : Parts) : List Char := p.whole ++ p.fraction.elim [] ('.' :: ·)

/-- **The texts that spell parts**: a sign, which only a positive number may lack or write as `+`,
then ASCII digits with at most one point and at least one digit. -/
structure Parts.Spells (p : Parts) (cs : List Char) : Prop where
  whole : ∀ c ∈ p.whole, c.isDigit = true
  fraction : ∀ f ∈ p.fraction, ∀ c ∈ f, c.isDigit = true
  some_digit : p.whole ≠ [] ∨ ∃ f ∈ p.fraction, f ≠ []
  sign : (p.negative = true ∧ cs = '-' :: p.body) ∨
    (p.negative = false ∧ (cs = p.body ∨ cs = '+' :: p.body))

/-- **The decimal grammar.** -/
def IsDecimal (cs : List Char) : Prop := ∃ p : Parts, p.Spells cs

/-- The digits of a spelling have at most a point among them. -/
theorem Parts.Spells.mem_body {p : Parts} {cs : List Char} (h : p.Spells cs) {c : Char}
    (hc : c ∈ p.body) : c.isDigit = true ∨ c = '.' := by
  rw [Parts.body, List.mem_append] at hc
  rcases hc with hw | hf
  · exact .inl (h.whole c hw)
  · cases hfraction : p.fraction with
    | none =>
      rw [hfraction] at hf
      cases hf
    | some f =>
      rw [hfraction] at hf
      rcases List.mem_cons.1 hf with rfl | hf
      · exact .inr rfl
      · exact .inl (h.fraction f hfraction c hf)

/-- A spelling has digits, signs and points only. -/
theorem Parts.Spells.mem {p : Parts} {cs : List Char} (h : p.Spells cs) {c : Char}
    (hc : c ∈ cs) : c.isDigit = true ∨ c = '-' ∨ c = '+' ∨ c = '.' := by
  rcases h.sign with ⟨-, rfl⟩ | ⟨-, rfl | rfl⟩
  · rcases List.mem_cons.1 hc with rfl | hc
    · exact .inr (.inl rfl)
    · exact (h.mem_body hc).imp_right fun hdot => .inr (.inr hdot)
  · exact (h.mem_body hc).imp_right fun hdot => .inr (.inr hdot)
  · rcases List.mem_cons.1 hc with rfl | hc
    · exact .inr (.inr (.inl rfl))
    · exact (h.mem_body hc).imp_right fun hdot => .inr (.inr hdot)

/-- A character that is no digit, sign or point stands in no decimal text. -/
theorem IsDecimal.not_mem {cs : List Char} (h : IsDecimal cs) {c : Char}
    (hc : c.isDigit = false ∧ c ≠ '-' ∧ c ≠ '+' ∧ c ≠ '.') : c ∉ cs := by
  obtain ⟨p, hp⟩ := h
  intro hmem
  rcases hp.mem hmem with hd | hm | hplus | hdot
  · rw [hc.1] at hd
    cases hd
  · exact hc.2.1 hm
  · exact hc.2.2.1 hplus
  · exact hc.2.2.2 hdot

/-! ## (2) The reader -/

/-- A text that begins with no sign is read as it is. -/
theorem splitSign_of_head {c : Char} {cs : List Char} (hminus : c ≠ '-') (hplus : c ≠ '+') :
    splitSign (c :: cs) = (false, c :: cs) := by
  unfold splitSign
  split
  · rename_i h
    exact absurd (List.cons.inj h).1 hminus
  · rename_i h
    exact absurd (List.cons.inj h).1 hplus
  · rfl

/-- A spelt body begins with a digit or the point. -/
theorem Parts.Spells.splitSign_body {p : Parts} {cs : List Char} (h : p.Spells cs) :
    splitSign p.body = (false, p.body) := by
  have hdigit : ∀ c : Char, c.isDigit = true → c ≠ '-' ∧ c ≠ '+' := by
    rintro c hc
    constructor <;> rintro rfl <;> exact absurd hc (by decide)
  cases hw : p.whole with
  | cons c cs =>
    have hc := hdigit c (h.whole c (by simp [hw]))
    rw [Parts.body, hw]
    exact splitSign_of_head hc.1 hc.2
  | nil =>
    rcases h.some_digit with hne | ⟨f, hf, -⟩
    · exact absurd hw hne
    · -- no digit before the point, so the body begins with the point
      rw [Option.mem_def] at hf
      rw [Parts.body, hw, hf]
      exact splitSign_of_head (by decide) (by decide)

/-- The reader takes the sign off first. -/
theorem Parts.Spells.splitSign_eq {p : Parts} {cs : List Char} (h : p.Spells cs) :
    splitSign cs = (p.negative, p.body) := by
  rcases h.sign with ⟨hn, rfl⟩ | ⟨hn, rfl | rfl⟩
  · rw [hn]
    rfl
  · rw [hn]
    exact h.splitSign_body
  · rw [hn]
    rfl

/-- Digits in front of a rest that begins with none are taken whole. -/
theorem span_digits {ds rest : List Char} (hds : ∀ c ∈ ds, c.isDigit = true)
    (hrest : ∀ c ∈ rest.head?, c.isDigit = false) :
    (ds ++ rest).takeWhile Char.isDigit = ds ∧ (ds ++ rest).dropWhile Char.isDigit = rest := by
  rw [List.takeWhile_append_of_pos hds, List.dropWhile_append_of_pos hds]
  cases rest with
  | nil => simp
  | cons c cs =>
    have hc := hrest c rfl
    simp [hc]

/-- **What is spelt is read.** -/
theorem Parts.Spells.parts?_eq {p : Parts} {cs : List Char} (h : p.Spells cs) :
    parts? cs = some p := by
  obtain ⟨negative, whole, fraction⟩ := p
  cases fraction with
  | none =>
    have hsign : splitSign cs = (negative, whole ++ []) := h.splitSign_eq
    obtain ⟨htake, hdrop⟩ := @span_digits _ [] h.whole (by simp)
    have hne : whole ≠ [] := by simpa using h.some_digit
    rw [parts?, hsign]
    simp only [htake, hdrop]
    rw [if_neg hne]
  | some f =>
    have hsign : splitSign cs = (negative, whole ++ '.' :: f) := h.splitSign_eq
    obtain ⟨htake, hdrop⟩ := @span_digits _ ('.' :: f) h.whole (by simp)
    have hall : f.all Char.isDigit = true := List.all_eq_true.2 (h.fraction f rfl)
    have hne : whole ≠ [] ∨ f ≠ [] := by simpa using h.some_digit
    rw [parts?, hsign]
    simp only [htake, hdrop]
    rw [if_pos ⟨hall, hne⟩]

/-- The reader takes off a sign that stands in front of what it goes on with. -/
theorem sign_of_splitSign (cs : List Char) :
    ((splitSign cs).1 = true ∧ cs = '-' :: (splitSign cs).2) ∨
      ((splitSign cs).1 = false ∧ (cs = (splitSign cs).2 ∨ cs = '+' :: (splitSign cs).2)) := by
  unfold splitSign
  split
  · exact .inl ⟨rfl, rfl⟩
  · exact .inr ⟨rfl, .inr rfl⟩
  · exact .inr ⟨rfl, .inl rfl⟩

/-- **What is read is spelt.** -/
theorem spells_of_parts? {p : Parts} {cs : List Char} (h : parts? cs = some p) : p.Spells cs := by
  have hsign := sign_of_splitSign cs
  unfold parts? at h
  generalize splitSign cs = signed at h hsign
  obtain ⟨negative, body⟩ := signed
  have hbody := List.takeWhile_append_dropWhile (p := Char.isDigit) (l := body)
  have hwhole : ∀ c ∈ body.takeWhile Char.isDigit, c.isDigit = true :=
    List.all_eq_true.1 List.all_takeWhile
  dsimp only at h hsign
  split at h
  · -- nothing after the digits: there is no point
    rename_i hrest
    split at h
    · cases h
    · rename_i hne
      cases h
      refine ⟨hwhole, by simp, .inl hne, ?_⟩
      rw [hrest, List.append_nil] at hbody
      simpa [Parts.body, hbody] using hsign
  · -- the point, and only digits after it
    rename_i f hrest
    split at h
    · rename_i hdigits
      cases h
      refine ⟨hwhole, ?_, ?_, ?_⟩
      · rintro f' hf'
        cases hf'
        exact List.all_eq_true.1 hdigits.1
      · exact hdigits.2.imp_right fun hf => ⟨f, rfl, hf⟩
      · rw [hrest] at hbody
        simpa [Parts.body, hbody] using hsign
    · cases h
  · cases h

/-- **The reader finds exactly the parts that spell a text.** -/
theorem parts?_eq_some_iff {p : Parts} {cs : List Char} : parts? cs = some p ↔ p.Spells cs :=
  ⟨spells_of_parts?, Parts.Spells.parts?_eq⟩

theorem parts?_eq_none_iff {cs : List Char} : parts? cs = none ↔ ¬IsDecimal cs := by
  rw [Option.eq_none_iff_forall_ne_some, IsDecimal, not_exists]
  exact forall_congr' fun p => not_congr parts?_eq_some_iff

instance (cs : List Char) : Decidable (IsDecimal cs) :=
  decidable_of_iff ((parts? cs).isSome = true) <| by
    rw [Option.isSome_iff_exists]
    exact exists_congr fun p => parts?_eq_some_iff

end DecimalText

/-! ## (3) Numerals -/

/-- A numeral has digits only. -/
theorem isDigit_of_mem_toString {n : Nat} {c : Char} (h : c ∈ (toString n).toList) :
    c.isDigit = true := by
  rw [Nat.toString_eq_repr, Nat.toList_repr] at h
  exact Nat.isDigit_of_mem_toDigits (by decide) (by decide) h

/-- **No two naturals have one numeral.** -/
theorem toString_nat_injective : Function.Injective (toString : Nat → String) := by
  intro i j h
  have hdigits : Nat.toDigits 10 i = Nat.toDigits 10 j := by
    rw [← Nat.toList_repr, ← Nat.toList_repr]
    exact congrArg String.toList h
  rw [← Nat.ofDigitChars_ten_toDigits (n := i), hdigits, Nat.ofDigitChars_ten_toDigits]

/-! ## (4) Raw values -/

/-- A text in the grammar is read as the number that it spells. -/
theorem coerce_of_spells {p : DecimalText.Parts} {raw : String} (h : p.Spells raw.toList) :
    coerce raw = .number p.toNumber := by
  rw [coerce, h.parts?_eq]

/-- A text that is read as a number is in the grammar. -/
theorem isDecimal_of_coerce {raw : String} {x : Number} (h : coerce raw = .number x) :
    DecimalText.IsDecimal raw.toList := by
  rw [coerce] at h
  cases hp : DecimalText.parts? raw.toList with
  | none => simp [hp] at h
  | some p => exact ⟨p, DecimalText.spells_of_parts? hp⟩

/-- **A text stays a text exactly where it is not in the decimal grammar.** -/
theorem coerce_eq_text_iff {raw t : String} :
    coerce raw = .text t ↔ t = raw ∧ ¬DecimalText.IsDecimal raw.toList := by
  rw [← DecimalText.parts?_eq_none_iff, coerce]
  cases DecimalText.parts? raw.toList with
  | none => simp [eq_comm]
  | some p => simp

end MediaTransform
