/-! # Cutting text at a separator

Every grammar of this library cuts text at single characters. The functions work on lists of
characters and have a form on strings:

* **`splitFirst`**, **`splitLast`** — the parts around the first or last separator, if any.
* **`splitAll`** — all parts, one more than there are separators. -/

namespace MediaTransform

namespace Text

/-! ## (1) Lists of characters -/

/-- **The parts before and after the first separator.** -/
def splitFirst (sep : Char) : List Char → Option (List Char × List Char)
  | [] => none
  | c :: cs =>
    if c = sep then some ([], cs)
    else match splitFirst sep cs with
      | some (before, after) => some (c :: before, after)
      | none => none

/-- **The parts before and after the last separator.** -/
def splitLast (sep : Char) : List Char → Option (List Char × List Char)
  | [] => none
  | c :: cs =>
    match splitLast sep cs with
    | some (before, after) => some (c :: before, after)
    | none => if c = sep then some ([], cs) else none

/-- **All parts between separators**, in order; never the empty list. -/
def splitAll (sep : Char) : List Char → List (List Char)
  | [] => [[]]
  | c :: cs =>
    if c = sep then [] :: splitAll sep cs
    else match splitAll sep cs with
      | [] => [[c]]
      | part :: parts => (c :: part) :: parts

/-! ## (2) Their laws -/

theorem splitFirst_eq_none_iff {sep : Char} {cs : List Char} :
    splitFirst sep cs = none ↔ sep ∉ cs := by
  induction cs with
  | nil => simp [splitFirst]
  | cons c cs ih =>
    unfold splitFirst
    by_cases h : c = sep
    · simp [h]
    · rw [if_neg h]
      cases hs : splitFirst sep cs with
      | none => simp [ih.1 hs, Ne.symm h]
      | some p =>
        have : sep ∈ cs := by
          by_cases hm : sep ∈ cs
          · exact hm
          · rw [ih.2 hm] at hs; cases hs
        simp [this]

theorem splitFirst_append {sep : Char} {before after : List Char} (h : sep ∉ before) :
    splitFirst sep (before ++ sep :: after) = some (before, after) := by
  induction before with
  | nil => simp [splitFirst]
  | cons c cs ih =>
    simp only [List.mem_cons, not_or] at h
    simp [splitFirst, Ne.symm h.1, ih h.2]

theorem eq_of_splitFirst {sep : Char} {cs before after : List Char}
    (h : splitFirst sep cs = some (before, after)) :
    cs = before ++ sep :: after ∧ sep ∉ before := by
  induction cs generalizing before after with
  | nil => simp [splitFirst] at h
  | cons c cs ih =>
    unfold splitFirst at h
    by_cases hc : c = sep
    · simp only [hc, if_true, Option.some.injEq, Prod.mk.injEq] at h
      simp [← h.1, ← h.2, hc]
    · rw [if_neg hc] at h
      cases hs : splitFirst sep cs with
      | none => simp [hs] at h
      | some p =>
        obtain ⟨b, a⟩ := p
        simp only [hs, Option.some.injEq, Prod.mk.injEq] at h
        obtain ⟨h1, h2⟩ := ih hs
        rw [← h.1, ← h.2]
        simp [h1, h2, Ne.symm hc]

theorem splitLast_eq_none_iff {sep : Char} {cs : List Char} :
    splitLast sep cs = none ↔ sep ∉ cs := by
  induction cs with
  | nil => simp [splitLast]
  | cons c cs ih =>
    unfold splitLast
    cases hs : splitLast sep cs with
    | none =>
      have hn := ih.1 hs
      by_cases h : c = sep
      · simp [h]
      · simp [h, Ne.symm h, hn]
    | some p =>
      have : sep ∈ cs := by
        by_cases hm : sep ∈ cs
        · exact hm
        · rw [ih.2 hm] at hs; cases hs
      simp [this]

theorem splitLast_append {sep : Char} {before after : List Char} (h : sep ∉ after) :
    splitLast sep (before ++ sep :: after) = some (before, after) := by
  induction before with
  | nil => simp [splitLast, splitLast_eq_none_iff.2 h]
  | cons c cs ih => simp [splitLast, ih]

theorem eq_of_splitLast {sep : Char} {cs before after : List Char}
    (h : splitLast sep cs = some (before, after)) :
    cs = before ++ sep :: after ∧ sep ∉ after := by
  induction cs generalizing before after with
  | nil => simp [splitLast] at h
  | cons c cs ih =>
    unfold splitLast at h
    cases hs : splitLast sep cs with
    | none =>
      simp only [hs] at h
      by_cases hc : c = sep
      · simp only [hc, if_true, Option.some.injEq, Prod.mk.injEq] at h
        simp [← h.1, ← h.2, hc, splitLast_eq_none_iff.1 hs]
      · simp [hc] at h
    | some p =>
      obtain ⟨b, a⟩ := p
      simp only [hs, Option.some.injEq, Prod.mk.injEq] at h
      obtain ⟨h1, h2⟩ := ih hs
      rw [← h.1, ← h.2]
      exact ⟨by simp [h1], h2⟩

@[simp] theorem splitAll_nil (sep : Char) : splitAll sep [] = [[]] := rfl

theorem splitAll_ne_nil (sep : Char) (cs : List Char) : splitAll sep cs ≠ [] := by
  cases cs with
  | nil => simp
  | cons c cs =>
    unfold splitAll
    split
    · simp
    · split <;> simp

/-- No part holds the separator. -/
theorem not_mem_of_mem_splitAll {sep : Char} {cs part : List Char}
    (h : part ∈ splitAll sep cs) : sep ∉ part := by
  induction cs generalizing part with
  | nil => simp_all [splitAll]
  | cons c cs ih =>
    unfold splitAll at h
    by_cases hc : c = sep
    · rw [if_pos hc] at h
      cases List.mem_cons.1 h with
      | inl e => simp [e]
      | inr m => exact ih m
    · rw [if_neg hc] at h
      cases hs : splitAll sep cs with
      | nil => exact absurd hs (splitAll_ne_nil sep cs)
      | cons first rest =>
        simp only [hs] at h ih
        cases List.mem_cons.1 h with
        | inl e =>
          have := ih (List.mem_cons_self (a := first) (l := rest))
          simp [e, Ne.symm hc, this]
        | inr m => exact ih (List.mem_cons_of_mem _ m)

/-! ## (3) Strings -/

/-- The parts of a string before and after the first separator. -/
def cut? (sep : Char) (s : String) : Option (String × String) :=
  (splitFirst sep s.toList).map fun p => (String.ofList p.1, String.ofList p.2)

/-- The parts of a string before and after the last separator. -/
def cutLast? (sep : Char) (s : String) : Option (String × String) :=
  (splitLast sep s.toList).map fun p => (String.ofList p.1, String.ofList p.2)

/-- All parts of a string between separators. -/
def fields (sep : Char) (s : String) : List String :=
  (splitAll sep s.toList).map String.ofList

end Text

end MediaTransform
