import MediaTransform.Text.Split

/-! # Cuts: the parts of a text between separators

What the splitting functions compute, said without them:

* **`Text.IsCut`** — parts that hold no separator and give the text when they are joined with it;
  `isCut_iff` says that `fields` finds the one list of such parts.
* **`cut?_eq_some_iff`** — the first separator is the one with none before it.
* **`cutLast?_eq_some_iff`** — the last separator is the one with none after it. -/

namespace MediaTransform

namespace Text

/-! ## (1) All parts -/

/-- **The parts of a text between separators**: none of them holds the separator, and joined with
it they are the text. -/
def IsCut (sep : Char) (s : String) (parts : List String) : Prop :=
  parts ≠ [] ∧ (∀ p ∈ parts, sep ∉ p.toList) ∧ (String.singleton sep).intercalate parts = s

/-- Cutting at every separator is what the standard library calls splitting. -/
theorem splitAll_eq_splitOn (sep : Char) (cs : List Char) : splitAll sep cs = cs.splitOn sep := by
  induction cs with
  | nil => simp
  | cons c cs ih =>
    rw [splitAll, List.splitOn_cons_eq_if_modifyHead, ih]
    by_cases h : c = sep
    · rw [if_pos h, if_pos (beq_iff_eq.2 h)]
    · -- the character goes to the first part of the rest, and there is always one
      rw [if_neg h, if_neg (by simpa using h)]
      cases hs : cs.splitOn sep with
      | nil => exact absurd hs (List.splitOn_ne_nil sep cs)
      | cons part parts => rfl

/-- The characters of the fields are the parts of the characters. -/
theorem map_toList_fields (sep : Char) (s : String) :
    (fields sep s).map String.toList = s.toList.splitOn sep := by
  rw [fields, splitAll_eq_splitOn, List.map_map]
  simp

/-- **The fields of a text are a cut of it.** -/
theorem isCut_fields (sep : Char) (s : String) : IsCut sep s (fields sep s) := by
  refine ⟨?_, ?_, ?_⟩
  · simp [fields, splitAll_ne_nil]
  · intro p hp
    obtain ⟨cs, hcs, rfl⟩ := List.mem_map.1 hp
    rw [String.toList_ofList]
    exact not_mem_of_mem_splitAll hcs
  · apply String.toList_injective
    rw [String.toList_intercalate, map_toList_fields, String.toList_singleton,
      List.intercalate_splitOn]

/-- A text has no other cut than its fields. -/
theorem IsCut.eq_fields {sep : Char} {s : String} {parts : List String} (h : IsCut sep s parts) :
    fields sep s = parts := by
  obtain ⟨hne, hsep, rfl⟩ := h
  have hlists : ∀ cs ∈ parts.map String.toList, sep ∉ cs := by
    intro cs hcs
    obtain ⟨p, hp, rfl⟩ := List.mem_map.1 hcs
    exact hsep p hp
  rw [fields, splitAll_eq_splitOn, String.toList_intercalate, String.toList_singleton,
    List.splitOn_intercalate sep hlists (by simpa using hne), List.map_map]
  simp

/-- **A text has exactly one cut, and `fields` finds it.** -/
theorem isCut_iff {sep : Char} {s : String} {parts : List String} :
    IsCut sep s parts ↔ fields sep s = parts :=
  ⟨IsCut.eq_fields, fun h => h ▸ isCut_fields sep s⟩

/-- The fields of two texts with a separator between them. -/
theorem fields_append (sep : Char) (s t : String) :
    fields sep (s ++ String.singleton sep ++ t) = fields sep s ++ fields sep t := by
  have happ : (s ++ String.singleton sep ++ t).toList = s.toList ++ sep :: t.toList := by simp
  simp only [fields, splitAll_eq_splitOn, happ, List.splitOn_append_cons_self, List.map_append]

/-- A text without the separator is its only field. -/
theorem fields_of_not_mem {sep : Char} {s : String} (h : sep ∉ s.toList) :
    fields sep s = [s] := by
  have hcut : IsCut sep s [s] := by
    refine ⟨by simp, fun p hp => ?_, by simp⟩
    rw [List.mem_singleton.1 hp]
    exact h
  exact hcut.eq_fields

/-- A character of a part is one of the text. -/
theorem IsCut.mem_of_part {sep c : Char} {s p : String} {parts : List String}
    (h : IsCut sep s parts) (hp : p ∈ parts) (hc : c ∈ p.toList) : c ∈ s.toList := by
  -- only that the parts are joined with the separator matters, so the induction is on them
  obtain ⟨-, -, rfl⟩ := h
  induction parts with
  | nil => cases hp
  | cons part parts ih =>
    by_cases hnil : parts = []
    · subst hnil
      rw [List.mem_singleton.1 hp] at hc
      simpa using hc
    · rw [String.intercalate_cons_of_ne_nil hnil, String.toList_append, String.toList_append,
        List.mem_append, List.mem_append]
      rcases List.mem_cons.1 hp with rfl | hp
      · exact .inl (.inl hc)
      · exact .inr (ih hp)

/-- A character of a text is the separator or stands in a part. -/
theorem IsCut.mem {sep c : Char} {s : String} {parts : List String} (h : IsCut sep s parts)
    (hc : c ∈ s.toList) : c = sep ∨ ∃ p ∈ parts, c ∈ p.toList := by
  obtain ⟨-, -, rfl⟩ := h
  induction parts with
  | nil => simp at hc
  | cons part parts ih =>
    by_cases hnil : parts = []
    · subst hnil
      exact .inr ⟨part, List.mem_singleton.2 rfl, by simpa using hc⟩
    · rw [String.intercalate_cons_of_ne_nil hnil, String.toList_append, String.toList_append,
        String.toList_singleton, List.mem_append, List.mem_append, List.mem_singleton] at hc
      rcases hc with (hpart | rfl) | hrest
      · exact .inr ⟨part, List.mem_cons_self, hpart⟩
      · exact .inl rfl
      · rcases ih hrest with hsep | ⟨p, hp, hcp⟩
        · exact .inl hsep
        · exact .inr ⟨p, List.mem_cons_of_mem _ hp, hcp⟩

/-- Parts each followed by the separator and a last part without one, joined. -/
theorem intercalate_concat (sep : String) (parts : List String) (last : String) :
    sep.intercalate (parts ++ [last]) = String.join (parts.map (· ++ sep)) ++ last := by
  induction parts with
  | nil => simp
  | cons part parts ih =>
    rw [List.cons_append, String.intercalate_cons_of_ne_nil (by simp), ih, List.map_cons,
      String.join_cons]
    simp only [String.append_assoc]

/-- A text grown by one part after the other, each after a separator. -/
theorem foldl_append_eq_intercalate {α : Type} (sep first : String) (f : α → String) (l : List α) :
    l.foldl (fun text a => text ++ sep ++ f a) first = sep.intercalate (first :: l.map f) := by
  induction l generalizing first with
  | nil => simp
  | cons a l ih =>
    rw [List.foldl_cons, ih, List.map_cons, String.intercalate_cons_append,
      String.intercalate_cons_cons]

/-! ## (2) The first separator -/

/-- **The first separator is the one with none before it.** -/
theorem cut?_eq_some_iff {sep : Char} {s before after : String} :
    cut? sep s = some (before, after) ↔
      s = before ++ String.singleton sep ++ after ∧ sep ∉ before.toList := by
  rw [cut?, Option.map_eq_some_iff]
  constructor
  · rintro ⟨⟨b, a⟩, hs, he⟩
    rw [Prod.mk.injEq] at he
    obtain ⟨rfl, rfl⟩ := he
    obtain ⟨hcs, hb⟩ := eq_of_splitFirst hs
    refine ⟨String.toList_injective ?_, by rwa [String.toList_ofList]⟩
    simp [hcs]
  · rintro ⟨rfl, hb⟩
    refine ⟨(before.toList, after.toList), ?_, by simp⟩
    have happ : (before ++ String.singleton sep ++ after).toList
        = before.toList ++ sep :: after.toList := by simp
    rw [happ, splitFirst_append hb]

/-- There is nothing to cut exactly where there is no separator. -/
theorem cut?_eq_none_iff {sep : Char} {s : String} : cut? sep s = none ↔ sep ∉ s.toList := by
  rw [cut?, Option.map_eq_none_iff, splitFirst_eq_none_iff]

/-! ## (3) The last separator -/

/-- **The last separator is the one with none after it.** -/
theorem cutLast?_eq_some_iff {sep : Char} {s before after : String} :
    cutLast? sep s = some (before, after) ↔
      s = before ++ String.singleton sep ++ after ∧ sep ∉ after.toList := by
  rw [cutLast?, Option.map_eq_some_iff]
  constructor
  · rintro ⟨⟨b, a⟩, hs, he⟩
    rw [Prod.mk.injEq] at he
    obtain ⟨rfl, rfl⟩ := he
    obtain ⟨hcs, ha⟩ := eq_of_splitLast hs
    refine ⟨String.toList_injective ?_, by rwa [String.toList_ofList]⟩
    simp [hcs]
  · rintro ⟨rfl, ha⟩
    refine ⟨(before.toList, after.toList), ?_, by simp⟩
    have happ : (before ++ String.singleton sep ++ after).toList
        = before.toList ++ sep :: after.toList := by simp
    rw [happ, splitLast_append ha]

end Text

end MediaTransform
