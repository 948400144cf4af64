/-! # Text by byte positions

A position counts the bytes of UTF-8 before it, and not every position is one between characters:

* **`Text.cutBytes?`** — the characters before and after a position.
* **`Text.slice?`** — the text from one position to another; `slice?_eq_some_iff` says that it is
  there exactly when both are positions between characters, the first not after the second. -/

namespace MediaTransform

namespace Text

/-- **The characters before and after a position**, if it stands between characters. -/
def cutBytes? : Nat → List Char → Option (List Char × List Char)
  | 0, cs => some ([], cs)
  | _ + 1, [] => none
  | n + 1, c :: cs =>
    if c.utf8Size ≤ n + 1 then
      (cutBytes? (n + 1 - c.utf8Size) cs).map fun (before, after) => (c :: before, after)
    else none

/-- **The text between two positions**, if both stand between characters. -/
def slice? (s : String) (start stop : Nat) : Option String := do
  let (_, rest) ← cutBytes? start s.toList
  if start ≤ stop then
    let (between, _) ← cutBytes? (stop - start) rest
    return String.ofList between
  else none

/-! ## Their laws -/

theorem utf8ByteSize_ofList_cons (c : Char) (cs : List Char) :
    (String.ofList (c :: cs)).utf8ByteSize = c.utf8Size + (String.ofList cs).utf8ByteSize := by
  have hcons : String.ofList (c :: cs) = String.singleton c ++ String.ofList cs := by
    apply String.toList_injective
    simp
  rw [hcons, String.utf8ByteSize_append, String.utf8ByteSize_singleton]

/-- **A position between characters has whole characters before it**, which are the bytes that it
counts. -/
theorem cutBytes?_eq_some_iff {n : Nat} {cs before after : List Char} :
    cutBytes? n cs = some (before, after) ↔
      cs = before ++ after ∧ (String.ofList before).utf8ByteSize = n := by
  induction cs generalizing n before after with
  | nil =>
    cases n with
    | zero =>
      simp only [cutBytes?, Option.some.injEq, Prod.mk.injEq]
      constructor
      · rintro ⟨rfl, rfl⟩
        exact ⟨rfl, rfl⟩
      · rintro ⟨hnil, -⟩
        obtain ⟨rfl, rfl⟩ := List.append_eq_nil_iff.1 hnil.symm
        exact ⟨rfl, rfl⟩
    | succ n =>
      constructor
      · nofun
      · rintro ⟨hnil, hsize⟩
        obtain ⟨rfl, rfl⟩ := List.append_eq_nil_iff.1 hnil.symm
        cases hsize
  | cons c cs ih =>
    have hpos := c.utf8Size_pos
    cases n with
    | zero =>
      simp only [cutBytes?, Option.some.injEq, Prod.mk.injEq]
      constructor
      · rintro ⟨rfl, rfl⟩
        exact ⟨rfl, rfl⟩
      · rintro ⟨hcs, hsize⟩
        -- every character has a byte, so there is none before the first position
        cases before with
        | nil => exact ⟨rfl, hcs⟩
        | cons d before =>
          rw [utf8ByteSize_ofList_cons] at hsize
          have := d.utf8Size_pos
          omega
    | succ n =>
      simp only [cutBytes?, Option.ite_none_right_eq_some, Option.map_eq_some_iff, Prod.exists,
        Prod.mk.injEq, ih]
      constructor
      · rintro ⟨hle, before, after, ⟨rfl, hsize⟩, rfl, rfl⟩
        refine ⟨rfl, ?_⟩
        rw [utf8ByteSize_ofList_cons]
        omega
      · rintro ⟨hcs, hsize⟩
        cases before with
        | nil => cases hsize
        | cons d before =>
          obtain ⟨rfl, rfl⟩ := List.cons.inj hcs
          rw [utf8ByteSize_ofList_cons] at hsize
          exact ⟨by omega, before, after, ⟨rfl, by omega⟩, rfl, rfl⟩

/-- **A slice is a part of the text with the right number of bytes before and in it.** -/
theorem slice?_eq_some_iff {s t : String} {start stop : Nat} :
    slice? s start stop = some t ↔
      ∃ before after, s = before ++ t ++ after ∧ before.utf8ByteSize = start ∧
        start + t.utf8ByteSize = stop := by
  simp only [slice?, Option.bind_eq_bind, Option.bind_eq_some_iff, Prod.exists,
    cutBytes?_eq_some_iff, Option.ite_none_right_eq_some, Option.pure_def, Option.some.injEq]
  constructor
  · rintro ⟨before, rest, ⟨hs, rfl⟩, hle, between, after, ⟨rfl, hsize⟩, rfl⟩
    refine ⟨String.ofList before, String.ofList after, ?_, rfl, ?_⟩
    · apply String.toList_injective
      simp [hs]
    · omega
  · rintro ⟨before, after, rfl, rfl, rfl⟩
    exact ⟨before.toList, t.toList ++ after.toList, ⟨by simp, by simp⟩, by omega, t.toList,
      after.toList, ⟨rfl, by simp⟩, by simp⟩

end Text

end MediaTransform
