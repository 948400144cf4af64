import Mathlib.Data.List.DropRight
import MediaTransform.Media.Asset
import MediaTransform.Text.Blank

/-! # Texts in lower case and texts without white space around them

* **`toLower_eq_iff`** — lowering ASCII letters touches no other character; `mem_lowerAscii_iff`
  says so of a text.
* **`Text.trimChars_trimChars`**, **`Text.trimChars_map_toLower`** — white space is cut off once and
  for all, and cutting it off commutes with lowering. -/

namespace MediaTransform

/-! ## (1) Lowering characters -/

/-- A letter in upper case moves 32 code points up. -/
theorem toNat_toLower (c : Char) :
    c.toLower.toNat = if 65 ≤ c.toNat ∧ c.toNat ≤ 90 then c.toNat + 32 else c.toNat := by
  have hval : c.val.toNat = c.toNat := rfl
  have hA : ('A' : Char).val.toNat = 65 := rfl
  have hZ : ('Z' : Char).val.toNat = 90 := rfl
  unfold Char.toLower
  by_cases h : c.val ≥ 'A'.val ∧ c.val ≤ 'Z'.val
  · rw [dif_pos h]
    rw [ge_iff_le, UInt32.le_iff_toNat_le, UInt32.le_iff_toNat_le, hval, hA, hZ] at h
    rw [if_pos h]
    -- the sum stays far below the end of the machine word
    have hsum : (c.val + ('a'.val - 'A'.val)).toNat = (c.toNat + 32) % 2 ^ 32 :=
      UInt32.toNat_add _ _
    rw [Nat.mod_eq_of_lt (by omega)] at hsum
    exact hsum
  · rw [dif_neg h]
    rw [ge_iff_le, UInt32.le_iff_toNat_le, UInt32.le_iff_toNat_le, hval, hA, hZ] at h
    rw [if_neg h]

theorem toLower_toLower (c : Char) : c.toLower.toLower = c.toLower := by
  have hlower := toNat_toLower c
  rw [← Char.toNat_inj, toNat_toLower c.toLower]
  refine if_neg ?_
  split at hlower <;> omega

/-- **A character that is no letter comes from itself alone.** -/
theorem toLower_eq_iff {c d : Char} (hd : ¬(65 ≤ d.toNat ∧ d.toNat ≤ 90))
    (hd' : ¬(97 ≤ d.toNat ∧ d.toNat ≤ 122)) : c.toLower = d ↔ c = d := by
  have hlower := toNat_toLower c
  constructor
  · rintro rfl
    rw [← Char.toNat_inj]
    split at hlower <;> omega
  · rintro rfl
    rw [← Char.toNat_inj, hlower, if_neg hd]

/-! ## (2) Lowering texts -/

theorem toList_lowerAscii (s : String) : (lowerAscii s).toList = s.toList.map Char.toLower := by
  rw [lowerAscii, String.toList_ofList]

@[simp]
theorem lowerAscii_lowerAscii (s : String) : lowerAscii (lowerAscii s) = lowerAscii s := by
  apply String.toList_injective
  rw [toList_lowerAscii, toList_lowerAscii, List.map_map]
  exact List.map_congr_left fun c _ => toLower_toLower c

/-- A character that is no letter stands in a text in lower case where it stood before. -/
theorem mem_lowerAscii_iff {c : Char} {s : String} (hc : ¬(65 ≤ c.toNat ∧ c.toNat ≤ 90))
    (hc' : ¬(97 ≤ c.toNat ∧ c.toNat ≤ 122)) : c ∈ (lowerAscii s).toList ↔ c ∈ s.toList := by
  simp only [toList_lowerAscii, List.mem_map, toLower_eq_iff hc hc']
  simp

/-! ## (3) White space around a text -/

namespace Text

/-- White space is no letter. -/
theorem isBlank_toLower (c : Char) : isBlank c.toLower = isBlank c := by
  have hblank : ∀ n ∈ blankCodes, n < 65 ∨ 122 < n := by decide
  have hlower := toNat_toLower c
  rw [Bool.eq_iff_iff]
  simp only [isBlank, List.contains_iff_mem]
  by_cases hupper : 65 ≤ c.toNat ∧ c.toNat ≤ 90
  · rw [if_pos hupper] at hlower
    constructor
    · intro h
      have := hblank _ h
      omega
    · intro h
      have := hblank _ h
      omega
  · rw [hlower, if_neg hupper]

theorem trimChars_eq (cs : List Char) :
    trimChars cs = (cs.dropWhile isBlank).rdropWhile isBlank := rfl

/-- What is trimmed has nothing left to cut off. -/
theorem trimChars_trimChars (cs : List Char) : trimChars (trimChars cs) = trimChars cs := by
  simp only [trimChars_eq]
  -- cutting at the end leaves the first character, which is not blank
  have hfirst : ((cs.dropWhile isBlank).rdropWhile isBlank).dropWhile isBlank
      = (cs.dropWhile isBlank).rdropWhile isBlank := by
    have hfront := List.rdropWhile_prefix isBlank (cs.dropWhile isBlank)
    have hdrop := List.dropWhile_idempotent isBlank cs
    rw [List.dropWhile_eq_self_iff] at hdrop ⊢
    intro hpos
    rw [hfront.getElem hpos]
    exact hdrop (hpos.trans_le hfront.length_le)
  rw [hfirst, List.rdropWhile_idempotent]

theorem trimChars_map_toLower (cs : List Char) :
    trimChars (cs.map Char.toLower) = (trimChars cs).map Char.toLower := by
  have hcomp : isBlank ∘ Char.toLower = isBlank := funext isBlank_toLower
  simp only [trimChars, List.dropWhile_map, hcomp, ← List.map_reverse]

/-- Where nothing is blank, nothing is cut off. -/
theorem trimChars_of_not_blank {cs : List Char} (h : ∀ c ∈ cs, isBlank c = false) :
    trimChars cs = cs := by
  have hdrop (l : List Char) (hl : ∀ c ∈ l, isBlank c = false) : l.dropWhile isBlank = l := by
    rw [List.dropWhile_eq_self_iff]
    intro hpos
    rw [hl _ (List.getElem_mem hpos)]
    exact Bool.false_ne_true
  rw [trimChars, hdrop cs h, hdrop cs.reverse fun c hc => h c (List.mem_reverse.1 hc),
    List.reverse_reverse]

theorem toList_trim (s : String) : (trim s).toList = trimChars s.toList := by
  rw [trim, String.toList_ofList]

@[simp]
theorem trim_trim (s : String) : trim (trim s) = trim s := by
  apply String.toList_injective
  simp only [toList_trim, trimChars_trimChars]

/-- **Lowering and trimming may be done in either order.** -/
theorem trim_lowerAscii (s : String) : trim (lowerAscii s) = lowerAscii (trim s) := by
  apply String.toList_injective
  simp only [toList_trim, toList_lowerAscii, trimChars_map_toLower]

end Text

end MediaTransform
