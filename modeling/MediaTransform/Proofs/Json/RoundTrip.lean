import MediaTransform.Proofs.Json.Lexemes

/-! # JSON documents read back

* **`Json.Writable`** — a document whose numbers are spelled as the grammar allows.
* **`Json.readValue_write`** — such a document is read back in front of anything that is no more of
  a number, with fuel of twice the length of its text.
* **`Json.parse?_compact`** — so the whole text of such a document is that document. -/

namespace MediaTransform

namespace Json

/-! ## (1) Documents and what begins them -/

mutual

/-- **A document that can be written**: all its numbers are spelled as the grammar allows. -/
def Writable : Json → Prop
  | .number n => n.WellFormed
  | .array items => WritableItems items
  | .object fields => WritableFields fields
  | _ => True

/-- All items can be written. -/
def WritableItems : List Json → Prop
  | [] => True
  | item :: items => item.Writable ∧ WritableItems items

/-- The values of all fields can be written. -/
def WritableFields : List (StringText × Json) → Prop
  | [] => True
  | (_, value) :: fields => value.Writable ∧ WritableFields fields

end

/-- **What begins a number**: a minus sign or a digit. -/
def BeginsNumber (c : Char) : Prop := c = '-' ∨ c.isDigit = true

instance (c : Char) : Decidable (BeginsNumber c) := inferInstanceAs (Decidable (_ ∨ _))

theorem BeginsNumber.ne {c d : Char} (h : BeginsNumber c)
    (hd : d ≠ '-' ∧ d.isDigit = false) : c ≠ d := by
  rintro rfl
  rcases h with hminus | hdigit
  · exact hd.1 hminus
  · rw [hd.2] at hdigit
    cases hdigit

theorem exists_beginsNumber {n : NumberText} (h : n.WellFormed) :
    ∃ c cs, writeNumber n = c :: cs ∧ BeginsNumber c := by
  rw [writeNumber_eq]
  cases n.negative with
  | true => exact ⟨'-', _, rfl, .inl rfl⟩
  | false =>
    obtain ⟨hne, hdigit⟩ := isRow_whole h
    cases hwhole : n.whole with
    | nil => exact absurd hwhole hne
    | cons c cs => exact ⟨c, _, rfl, .inr (hdigit c (hwhole ▸ List.mem_cons_self))⟩

/-- **What begins a document**: no blank, and nothing that ends an array. -/
def Begins (c : Char) : Prop := isBlank c = false ∧ c ≠ ']'

instance (c : Char) : Decidable (Begins c) := inferInstanceAs (Decidable (_ ∧ _))

theorem BeginsNumber.begins {c : Char} (h : BeginsNumber c) : Begins c := by
  refine ⟨?_, h.ne (by decide)⟩
  simp [isBlank, h.ne (show ' ' ≠ '-' ∧ _ by decide), h.ne (show '\n' ≠ '-' ∧ _ by decide),
    h.ne (show '\t' ≠ '-' ∧ _ by decide), h.ne (show '\r' ≠ '-' ∧ _ by decide)]

theorem exists_begins {j : Json} (h : j.Writable) :
    ∃ c cs, j.write = c :: cs ∧ Begins c := by
  cases j with
  | null => exact ⟨'n', _, rfl, by decide⟩
  | bool b => cases b with
    | true => exact ⟨'t', _, rfl, by decide⟩
    | false => exact ⟨'f', _, rfl, by decide⟩
  | number n =>
    obtain ⟨c, cs, hwrite, hc⟩ := exists_beginsNumber h
    exact ⟨c, cs, by rw [write, hwrite], hc.begins⟩
  | string s =>
    obtain ⟨body, hwrite, -⟩ := readString_writeString s
    exact ⟨'"', body, by rw [write, hwrite], by decide⟩
  | array items => exact ⟨'[', _, by rw [write], by decide⟩
  | object fields => exact ⟨'{', _, by rw [write], by decide⟩

/-! ## (2) One step of the reader -/

theorem skipBlanks_cons {c : Char} (h : isBlank c = false) (rest : List Char) :
    skipBlanks (c :: rest) = c :: rest :=
  List.dropWhile_cons_of_neg (by simp [h])

theorem readValue_quote (fuel : Nat) (body : List Char) :
    readValue (fuel + 1) ('"' :: body) = (readString body).map fun p => (.string p.1, p.2) := by
  rfl

theorem readValue_number {fuel : Nat} {c : Char} (h : BeginsNumber c) (body : List Char) :
    readValue (fuel + 1) (c :: body)
      = (readNumber (c :: body)).map fun p => (.number p.1, p.2) := by
  rw [readValue, skipBlanks_cons h.begins.1]
  split
  all_goals first
    | rfl
    | rename_i heq
      cases heq
      exact absurd h (by decide)

theorem readValue_bracket {fuel : Nat} {c : Char} (h : Begins c) (body : List Char) :
    readValue (fuel + 1) ('[' :: c :: body)
      = (readItems fuel (c :: body)).map fun p => (.array p.1, p.2) := by
  rw [readValue, skipBlanks_cons (by decide)]
  simp only [skipBlanks_cons h.1]
  split
  · rename_i heq
    cases heq
    exact absurd rfl h.2
  · rfl

theorem readValue_brace (fuel : Nat) (body : List Char) :
    readValue (fuel + 1) ('{' :: '"' :: body)
      = (readFields fuel ('"' :: body)).map fun p => (.object p.1, p.2) := by
  rfl

theorem endsNumber_cons {c : Char} (h : c.isDigit = false ∧ c ≠ '.' ∧ c ≠ 'e' ∧ c ≠ 'E')
    (rest : List Char) : EndsNumber (c :: rest) := by
  rintro d ⟨⟩
  exact h

theorem exists_begins_items {item : Json} (h : item.Writable) (items : List Json) :
    ∃ c cs, writeItems (item :: items) = c :: cs ∧ Begins c := by
  obtain ⟨c, cs, hwrite, hc⟩ := exists_begins h
  cases items with
  | nil => exact ⟨c, cs, by rw [writeItems, hwrite], hc⟩
  | cons next items =>
    refine ⟨c, cs ++ ',' :: writeItems (next :: items), ?_, hc⟩
    rw [writeItems.eq_3 item (next :: items) (by simp), hwrite]
    rfl

theorem exists_quote_fields (key : StringText) (value : Json) (fields : List (StringText × Json)) :
    ∃ cs, writeFields ((key, value) :: fields) = '"' :: cs := by
  obtain ⟨body, hwrite, -⟩ := readString_writeString key
  cases fields with
  | nil => exact ⟨_, by rw [writeFields, hwrite]; rfl⟩
  | cons next fields =>
    exact ⟨_, by rw [writeFields.eq_3 key value (next :: fields) (by simp), hwrite]; rfl⟩

/-- The last field is followed by the closing brace. -/
theorem readFields_last {fuel : Nat} {key : StringText} {value : Json} {text rest : List Char}
    (h : readValue fuel text = some (value, '}' :: rest)) :
    readFields (fuel + 1) (writeString key ++ ':' :: text) = some ([(key, value)], rest) := by
  obtain ⟨body, hwrite, hread⟩ := readString_writeString key
  rw [hwrite, List.cons_append, readFields, skipBlanks_cons (by decide)]
  simp only [hread, skipBlanks_cons (show isBlank ':' = false by decide), h,
    skipBlanks_cons (show isBlank '}' = false by decide)]

/-- Every other field is followed by a comma and the next one. -/
theorem readFields_next {fuel : Nat} {key : StringText} {value : Json} {text rest : List Char}
    (h : readValue fuel text = some (value, ',' :: rest)) :
    readFields (fuel + 1) (writeString key ++ ':' :: text)
      = (readFields fuel rest).map fun p => ((key, value) :: p.1, p.2) := by
  obtain ⟨body, hwrite, hread⟩ := readString_writeString key
  rw [hwrite, List.cons_append, readFields, skipBlanks_cons (by decide)]
  simp only [hread, skipBlanks_cons (show isBlank ':' = false by decide), h,
    skipBlanks_cons (show isBlank ',' = false by decide)]

/-! ## (3) Whole documents -/

mutual

/-- **A written document is read back**, whatever follows that cannot be more of it. -/
theorem readValue_write {j : Json} {fuel : Nat} {rest : List Char} (h : j.Writable)
    (hrest : EndsNumber rest) (hfuel : 2 * j.write.length ≤ fuel) :
    readValue fuel (j.write ++ rest) = some (j, rest) := by
  -- the three readers call each other with less fuel; two units a character are enough, as a
  -- bracket or a brace pays for the step into its items and each comma for the step to the next
  match fuel, j with
  | 0, j =>
    obtain ⟨c, cs, hbegin, -⟩ := exists_begins h
    rw [hbegin, List.length_cons] at hfuel
    omega
  | fuel + 1, .null => rfl
  | fuel + 1, .bool true => rfl
  | fuel + 1, .bool false => rfl
  | fuel + 1, .number n =>
    obtain ⟨d, ds, hwrite, hd⟩ := exists_beginsNumber h
    rw [write, hwrite, List.cons_append, readValue_number hd, ← List.cons_append, ← hwrite,
      readNumber_writeNumber h hrest]
    rfl
  | fuel + 1, .string s =>
    obtain ⟨body, hwrite, hread⟩ := readString_writeString s
    rw [write, hwrite, List.cons_append, readValue_quote, hread]
    rfl
  | fuel + 1, .array [] => rfl
  | fuel + 1, .array (item :: items) =>
    obtain ⟨d, ds, hwrite, hd⟩ := exists_begins_items h.1 items
    rw [write, List.length_cons, List.length_append, List.length_singleton] at hfuel
    have hbound : 2 * (writeItems (item :: items)).length + 1 ≤ fuel := by omega
    have hread : readItems fuel (writeItems (item :: items) ++ ']' :: rest)
        = some (item :: items, rest) := readItems_writeItems h hbound
    rw [hwrite, List.cons_append] at hread
    rw [write, hwrite, List.cons_append, List.append_assoc, List.cons_append,
      readValue_bracket hd, List.singleton_append, hread]
    rfl
  | fuel + 1, .object [] => rfl
  | fuel + 1, .object ((key, value) :: fields) =>
    obtain ⟨ds, hwrite⟩ := exists_quote_fields key value fields
    rw [write, List.length_cons, List.length_append, List.length_singleton] at hfuel
    have hbound : 2 * (writeFields ((key, value) :: fields)).length + 1 ≤ fuel := by omega
    have hread : readFields fuel (writeFields ((key, value) :: fields) ++ '}' :: rest)
        = some ((key, value) :: fields, rest) := readFields_writeFields h hbound
    rw [hwrite, List.cons_append] at hread
    rw [write, hwrite, List.cons_append, List.append_assoc, List.cons_append,
      readValue_brace, List.singleton_append, hread]
    rfl

/-- Written items are read back up to the bracket. -/
theorem readItems_writeItems {item : Json} {items : List Json} {fuel : Nat} {rest : List Char}
    (h : WritableItems (item :: items))
    (hfuel : 2 * (writeItems (item :: items)).length + 1 ≤ fuel) :
    readItems fuel (writeItems (item :: items) ++ ']' :: rest) = some (item :: items, rest) := by
  match fuel, items with
  | 0, _ => omega
  | fuel + 1, [] =>
    rw [writeItems] at hfuel ⊢
    rw [readItems, readValue_write h.1 (endsNumber_cons (by decide) rest) (by omega)]
    rfl
  | fuel + 1, next :: items =>
    rw [writeItems.eq_3 item (next :: items) (by simp)] at hfuel ⊢
    rw [List.length_append, List.length_cons] at hfuel
    rw [List.append_assoc, List.cons_append, readItems,
      readValue_write h.1 (endsNumber_cons (by decide) _) (by omega)]
    simp only [skipBlanks_cons (show isBlank ',' = false by decide)]
    rw [readItems_writeItems h.2 (by omega)]
    rfl

/-- Written fields are read back up to the brace. -/
theorem readFields_writeFields {key : StringText} {value : Json}
    {fields : List (StringText × Json)} {fuel : Nat} {rest : List Char}
    (h : WritableFields ((key, value) :: fields))
    (hfuel : 2 * (writeFields ((key, value) :: fields)).length + 1 ≤ fuel) :
    readFields fuel (writeFields ((key, value) :: fields) ++ '}' :: rest)
      = some ((key, value) :: fields, rest) := by
  match fuel, fields with
  | 0, _ => omega
  | fuel + 1, [] =>
    rw [writeFields] at hfuel ⊢
    rw [List.length_append, List.length_cons] at hfuel
    rw [List.append_assoc, List.cons_append,
      readFields_last (readValue_write h.1 (endsNumber_cons (by decide) rest) (by omega))]
  | fuel + 1, (nextKey, next) :: fields =>
    rw [writeFields.eq_3 key value ((nextKey, next) :: fields) (by simp)] at hfuel ⊢
    rw [List.length_append, List.length_cons, List.length_append, List.length_cons] at hfuel
    rw [List.append_assoc, List.cons_append, List.append_assoc, List.cons_append,
      readFields_next (readValue_write h.1 (endsNumber_cons (by decide) _) (by omega)),
      readFields_writeFields h.2 (by omega)]
    rfl

end

/-- **A written document is the document of its text.** -/
theorem parse?_compact {j : Json} (h : j.Writable) : parse? j.compact = some j := by
  have hends : EndsNumber [] := fun c hc => nomatch hc
  have hread : readValue (2 * j.write.length + 2) (j.write ++ []) = some (j, []) :=
    readValue_write h hends (by omega)
  rw [List.append_nil] at hread
  rw [parse?, compact, String.toList_ofList]
  simp only [hread]
  rfl

end Json

end MediaTransform
