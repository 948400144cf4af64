import Mathlib.Data.List.Forall2
import MediaTransform.Colour
import MediaTransform.Proofs.Failure
import MediaTransform.Proofs.Text.Normal
import MediaTransform.Proofs.Text.Utf8

/-! # Reading and writing colours

* **`Colour.all_isHexByte_ofText`** — testing the bytes of a text for digits comes to testing its
  characters, so that every position in what passes stands between characters.
* **`Colour.ofHexDigits?`** — the colour of digits one after the other; `ofHex_ofList` says that
  slicing them out of a text by positions comes to the same.
* **`Colour.IsColourText`** — the texts of colours, and `isSome_ofText?_iff` that there are no others.
* **`Colour.reads_exactly`** — reading never takes a slice that is not there, the spellings of a
  colour agree, and what is written is read back. -/

namespace MediaTransform

namespace Colour

/-! ## (1) Digits -/

/-- **The hexadecimal digits.** -/
def IsHexDigit (c : Char) : Prop := c ∈ "0123456789abcdefABCDEF".toList

instance : DecidablePred IsHexDigit :=
  fun c => inferInstanceAs (Decidable (c ∈ "0123456789abcdefABCDEF".toList))

/-- The three ranges of digits by their code points. -/
theorem hexValue?_eq_some_iff {c : Char} {v : Nat} :
    hexValue? c = some v ↔
      (48 ≤ c.toNat ∧ c.toNat ≤ 57 ∧ v = c.toNat - 48) ∨
      (97 ≤ c.toNat ∧ c.toNat ≤ 102 ∧ v = c.toNat - 87) ∨
      (65 ≤ c.toNat ∧ c.toNat ≤ 70 ∧ v = c.toNat - 55) := by
  have hrange (lo hi : Char) : (lo ≤ c ∧ c ≤ hi) ↔ (lo.toNat ≤ c.toNat ∧ c.toNat ≤ hi.toNat) :=
    Iff.rfl
  have h0 : '0'.toNat = 48 := rfl
  have h9 : '9'.toNat = 57 := rfl
  have ha : 'a'.toNat = 97 := rfl
  have hf : 'f'.toNat = 102 := rfl
  have hA : 'A'.toNat = 65 := rfl
  have hF : 'F'.toNat = 70 := rfl
  unfold hexValue?
  simp only [hrange, h0, h9, ha, hf, hA, hF]
  split
  · rw [Option.some.injEq]
    omega
  · split
    · rw [Option.some.injEq]
      omega
    · split
      · rw [Option.some.injEq]
        omega
      · simp only [reduceCtorEq, false_iff]
        omega

theorem hexValue?_lt {c : Char} {v : Nat} (h : hexValue? c = some v) : v < 16 := by
  rw [hexValue?_eq_some_iff] at h
  omega

/-- A digit is one byte. -/
theorem utf8Size_of_hexValue? {c : Char} {v : Nat} (h : hexValue? c = some v) :
    c.utf8Size = 1 := by
  rw [hexValue?_eq_some_iff] at h
  rw [Char.utf8Size_eq_one_iff, UInt32.le_iff_toNat_le]
  have : c.val.toNat = c.toNat := rfl
  have : (127 : UInt32).toNat = 127 := rfl
  omega

/-- Lowering a digit does not change its value. -/
theorem hexValue?_toLower (c : Char) : hexValue? c.toLower = hexValue? c := by
  have hlower := toNat_toLower c
  apply Option.ext
  intro v
  rw [hexValue?_eq_some_iff, hexValue?_eq_some_iff]
  split at hlower <;> omega

/-- A digit is no white space. -/
theorem isBlank_of_hexValue? {c : Char} {v : Nat} (h : hexValue? c = some v) :
    Text.isBlank c = false := by
  rw [hexValue?_eq_some_iff] at h
  have hblank : ∀ n ∈ Text.blankCodes, n < 48 ∨ 122 < n := by decide
  by_contra hc
  rw [Bool.not_eq_false, Text.isBlank, List.contains_iff_mem] at hc
  have := hblank _ hc
  omega

/-- **The characters with a value are the digits.** -/
theorem hexValue?_isSome_iff {c : Char} : (hexValue? c).isSome = true ↔ IsHexDigit c := by
  constructor
  · intro h
    obtain ⟨v, hv⟩ := Option.isSome_iff_exists.1 h
    rw [hexValue?_eq_some_iff] at hv
    have hcodes : "0123456789abcdefABCDEF".toList.map Char.toNat =
        List.range' 48 10 ++ List.range' 97 6 ++ List.range' 65 6 := by decide
    have hcode : c.toNat ∈ "0123456789abcdefABCDEF".toList.map Char.toNat := by
      rw [hcodes]
      simp only [List.mem_append, List.mem_range'_1]
      omega
    obtain ⟨d, hd, hdc⟩ := List.mem_map.1 hcode
    rwa [← Char.toNat_inj.1 hdc]
  · have hall : ("0123456789abcdefABCDEF".toList.all fun c => (hexValue? c).isSome) = true := by
      decide
    exact List.all_eq_true.1 hall c

theorem IsHexDigit.exists_value {c : Char} (h : IsHexDigit c) : ∃ v, hexValue? c = some v :=
  Option.isSome_iff_exists.1 (hexValue?_isSome_iff.2 h)

theorem isHexByte_iff {b : UInt8} :
    isHexByte b = true ↔ (48 ≤ b.toNat ∧ b.toNat ≤ 57) ∨ (97 ≤ b.toNat ∧ b.toNat ≤ 102) ∨
      (65 ≤ b.toNat ∧ b.toNat ≤ 70) := by
  simp only [isHexByte, Bool.or_eq_true, Bool.and_eq_true, decide_eq_true_eq, or_assoc]

/-- A longer character begins with a byte that is no digit. -/
theorem all_isHexByte_cons_eq_false {n : Nat} {bs : List UInt8} (h : 192 ≤ n) (h' : n < 256) :
    (UInt8.ofNat n :: bs).all isHexByte = false := by
  have hvalue : (UInt8.ofNat n).toNat = n := UInt8.toNat_ofNat_of_lt' h'
  have hfirst : isHexByte (UInt8.ofNat n) = false := by
    rw [Bool.eq_false_iff, Ne, isHexByte_iff, hvalue]
    omega
  rw [List.all_cons, hfirst, Bool.false_and]

theorem isHexDigit_of_hexValue? {c : Char} {v : Nat} (h : hexValue? c = some v) :
    IsHexDigit c := by
  rw [← hexValue?_isSome_iff, h]
  rfl

/-- **Digits can be told byte by byte.** -/
theorem all_isHexByte_utf8EncodeChar (c : Char) :
    (String.utf8EncodeChar c).all isHexByte = (hexValue? c).isSome := by
  have hcode : c.val.toNat = c.toNat := rfl
  unfold String.utf8EncodeChar
  simp only [hcode]
  by_cases hascii : c.toNat ≤ 127
  · rw [if_pos hascii, List.all_cons, List.all_nil, Bool.and_true, Bool.eq_iff_iff, isHexByte_iff,
      UInt8.toNat_ofNat_of_lt' (hascii.trans_lt (by decide)), Option.isSome_iff_exists]
    simp only [hexValue?_eq_some_iff]
    constructor
    · rintro (h | h | h)
      · exact ⟨_, .inl ⟨h.1, h.2, rfl⟩⟩
      · exact ⟨_, .inr (.inl ⟨h.1, h.2, rfl⟩)⟩
      · exact ⟨_, .inr (.inr ⟨h.1, h.2, rfl⟩)⟩
    · rintro ⟨v, h⟩
      omega
  · have hvalue : hexValue? c = none := by
      rw [Option.eq_none_iff_forall_ne_some]
      intro v hv
      rw [hexValue?_eq_some_iff] at hv
      omega
    rw [if_neg hascii, hvalue]
    -- two, three or four bytes, of which the first one has its two highest bits set
    split
    · exact all_isHexByte_cons_eq_false (by omega) (by omega)
    · split
      · exact all_isHexByte_cons_eq_false (by omega) (by omega)
      · exact all_isHexByte_cons_eq_false (by omega) (by omega)

/-- **The bytes of a text are digits exactly where its characters are.** -/
theorem all_isHexByte_ofText (cs : List Char) :
    (Bytes.ofText (String.ofList cs)).all isHexByte = true ↔ ∀ c ∈ cs, IsHexDigit c := by
  rw [Bytes.all_ofText, List.all_eq_true]
  simp only [all_isHexByte_utf8EncodeChar, hexValue?_isSome_iff]

/-! ## (2) Slices -/

/-- The byte of two digit values. -/
def byteOf (high low : Nat) : UInt8 := (16 * high + low).toUInt8

theorem toNat_byteOf {v w : Nat} (hv : v < 16) (hw : w < 16) :
    (byteOf v w).toNat = 16 * v + w :=
  UInt8.toNat_ofNat_of_lt' (show 16 * v + w < 256 by omega)

theorem withoutSign_of_digit {c : Char} {v : Nat} (h : hexValue? c = some v) (cs : List Char) :
    withoutSign (c :: cs) = c :: cs := by
  unfold withoutSign
  split
  next heq =>
    have hplus : hexValue? '+' = none := by decide
    rw [(List.cons.inj heq).1, hplus] at h
    cases h
  next => rfl

section Digits

variable {x y : Char} {v w : Nat} {before : List Char}

theorem byteOfHex?_single (hx : hexValue? x = some v) :
    byteOfHex? (String.ofList [x]) = some (byteOf 0 v) := by
  have hv := hexValue?_lt hx
  have hmap : [x].mapM hexValue? = some [v] := by simp [hx]
  rw [byteOfHex?, String.toList_ofList, withoutSign_of_digit hx, hmap]
  exact if_pos (by simp; omega)

theorem byteOfHex?_pair (hx : hexValue? x = some v) (hy : hexValue? y = some w) :
    byteOfHex? (String.ofList [x, y]) = some (byteOf v w) := by
  have hv := hexValue?_lt hx
  have hw := hexValue?_lt hy
  have hmap : [x, y].mapM hexValue? = some [v, w] := by simp [hx, hy]
  rw [byteOfHex?, String.toList_ofList, withoutSign_of_digit hx, hmap]
  refine (if_pos ?_).trans ?_
  · simp; omega
  · simp [byteOf]

theorem utf8Size_of_isHexDigit {c : Char} (h : IsHexDigit c) : c.utf8Size = 1 := by
  obtain ⟨v, hv⟩ := h.exists_value
  exact utf8Size_of_hexValue? hv

/-- **A slice between digits is there**, and its byte is read. -/
theorem byteAt_of_digits {before piece after : List Char} {b : UInt8}
    (hall : ∀ c ∈ before ++ piece ++ after, IsHexDigit c)
    (hb : byteOfHex? (String.ofList piece) = some b) :
    byteAt (String.ofList (before ++ piece ++ after)) before.length
      (before.length + piece.length) = .ok b := by
  have hsize (cs : List Char) (hcs : cs ⊆ before ++ piece ++ after) :
      (String.ofList cs).utf8ByteSize = cs.length :=
    utf8ByteSize_ofList_of_ascii fun c hc => utf8Size_of_isHexDigit (hall c (hcs hc))
  -- digits are bytes, so that counting characters is counting bytes
  have hslice : Text.slice? (String.ofList (before ++ piece ++ after)) before.length
      (before.length + piece.length) = some (String.ofList piece) := by
    rw [Text.slice?_eq_some_iff]
    refine ⟨String.ofList before, String.ofList after, ?_, hsize before ?_, ?_⟩
    · apply String.toList_injective
      simp
    · simp
    · rw [hsize piece (by simp)]
  rw [byteAt, hslice]
  dsimp only
  rw [hb]

variable (before after : List Char)

theorem pairAt_of_digits (hall : ∀ c ∈ before ++ x :: y :: after, IsHexDigit c)
    (hx : hexValue? x = some v) (hy : hexValue? y = some w) :
    pairAt (String.ofList (before ++ x :: y :: after)) before.length = .ok (byteOf v w) := by
  have hpiece : before ++ x :: y :: after = before ++ [x, y] ++ after := by simp
  rw [hpiece] at hall ⊢
  exact byteAt_of_digits hall (byteOfHex?_pair hx hy)

/-- The double of a digit fits into a byte. -/
theorem doubledAt_of_digits (hall : ∀ c ∈ before ++ x :: after, IsHexDigit c)
    (hx : hexValue? x = some v) :
    doubledAt (String.ofList (before ++ x :: after)) before.length = .ok (byteOf v v) := by
  have hv := hexValue?_lt hx
  have hpiece : before ++ x :: after = before ++ [x] ++ after := by simp
  have hdigit : (byteOf 0 v).toNat = v := by
    rw [toNat_byteOf (by omega) hv]
    omega
  rw [hpiece] at hall ⊢
  have hbyte : byteAt (String.ofList (before ++ [x] ++ after)) before.length (before.length + 1)
      = .ok (byteOf 0 v) := byteAt_of_digits hall (byteOfHex?_single hx)
  rw [doubledAt, hbyte]
  refine (if_pos ?_).trans ?_
  · omega
  · -- seventeen times a digit is the digit twice
    have hdouble : byteOf 0 v * 17 = byteOf v v := by
      rw [← UInt8.toNat_inj, UInt8.toNat_mul, hdigit, toNat_byteOf hv hv]
      have hfactor : (17 : UInt8).toNat = 17 := rfl
      rw [hfactor]
      omega
    rw [hdouble]
    rfl

end Digits

/-! ## (3) Digit values -/

/-- **The colour of a row of digit values**: three digits are each doubled, six are opaque, eight
have their own alpha. -/
def ofDigits? : List Nat → Option Colour
  | [r, g, b] => some ⟨byteOf r r, byteOf g g, byteOf b b, 255⟩
  | [r, r', g, g', b, b'] => some ⟨byteOf r r', byteOf g g', byteOf b b', 255⟩
  | [r, r', g, g', b, b', a, a'] => some ⟨byteOf r r', byteOf g g', byteOf b b', byteOf a a'⟩
  | _ => none

/-- The colour of digits. -/
def ofHexDigits? (cs : List Char) : Option Colour := (cs.mapM hexValue?).bind ofDigits?

/-- **Characters that are digits with these values.** -/
abbrev HasValues (cs : List Char) (vs : List Nat) : Prop :=
  List.Forall₂ (fun c v => hexValue? c = some v) cs vs

/-- Digits have values one by one. -/
theorem mapM_hexValue?_eq_some_iff {cs : List Char} {vs : List Nat} :
    cs.mapM hexValue? = some vs ↔ HasValues cs vs := by
  induction cs generalizing vs with
  | nil =>
    rw [HasValues, List.forall₂_nil_left_iff]
    exact ⟨fun h => (Option.some.inj h).symm, fun h => congrArg some h.symm⟩
  | cons c cs ih =>
    rw [HasValues, List.forall₂_cons_left_iff]
    simp only [List.mapM_cons, Option.bind_eq_bind, Option.bind_eq_some_iff, Option.pure_def,
      Option.some.injEq, ih]
    constructor
    · rintro ⟨v, hv, ws, hws, rfl⟩
      exact ⟨v, ws, hv, hws, rfl⟩
    · rintro ⟨v, ws, hv, hws, rfl⟩
      exact ⟨v, hv, ws, hws, rfl⟩

section Values

variable {cs : List Char} {vs : List Nat}

theorem isHexDigit_of_values (h : HasValues cs vs) : ∀ c ∈ cs, IsHexDigit c := by
  have hdigits := h.imp fun c v hv => And.intro (isHexDigit_of_hexValue? hv) hv
  exact ((List.forall₂_and_left _ _).1 hdigits).1

theorem exists_values (h : ∀ c ∈ cs, IsHexDigit c) : ∃ vs, HasValues cs vs := by
  induction cs with
  | nil => exact ⟨[], .nil⟩
  | cons c cs ih =>
    obtain ⟨hc, hcs⟩ := List.forall_mem_cons.1 h
    obtain ⟨v, hv⟩ := hc.exists_value
    obtain ⟨vs, hvs⟩ := ih hcs
    exact ⟨v :: vs, .cons hv hvs⟩

theorem doubledAt_of_values (h : HasValues cs vs) (i : Nat) (hi : i < vs.length) :
    doubledAt (String.ofList cs) i = .ok (byteOf vs[i] vs[i]) := by
  have hall := isHexDigit_of_values h
  have hlength := h.length_eq
  have hsplit : cs.take i ++ cs[i] :: cs.drop (i + 1) = cs := by
    rw [← List.drop_eq_getElem_cons, List.take_append_drop]
  rw [← hsplit] at hall
  have hbyte := doubledAt_of_digits _ _ hall (h.get (by omega) hi)
  rwa [hsplit, List.length_take, Nat.min_eq_left (by omega)] at hbyte

theorem pairAt_of_values (h : HasValues cs vs) (i : Nat) (hi : i + 1 < vs.length) :
    pairAt (String.ofList cs) i = .ok (byteOf vs[i] vs[i + 1]) := by
  have hall := isHexDigit_of_values h
  have hlength := h.length_eq
  have hsplit : cs.take i ++ cs[i] :: cs[i + 1] :: cs.drop (i + 1 + 1) = cs := by
    rw [← List.drop_eq_getElem_cons, ← List.drop_eq_getElem_cons, List.take_append_drop]
  rw [← hsplit] at hall
  have hbyte := pairAt_of_digits _ _ hall (h.get (by omega) (by omega)) (h.get (by omega) hi)
  rwa [hsplit, List.length_take, Nat.min_eq_left (by omega)] at hbyte

end Values

/-- Only these numbers of digits make a colour. -/
theorem length_not_mem {vs : List Nat} (hthree : ∀ r g b, vs ≠ [r, g, b])
    (hsix : ∀ r r' g g' b b', vs ≠ [r, r', g, g', b, b'])
    (height : ∀ r r' g g' b b' a a', vs ≠ [r, r', g, g', b, b', a, a']) :
    vs.length ∉ [3, 6, 8] := by
  simp only [List.mem_cons, List.not_mem_nil, or_false]
  rintro (hlength | hlength | hlength)
  · match vs, hlength with
    | [r, g, b], _ => exact hthree r g b rfl
  · match vs, hlength with
    | [r, r', g, g', b, b'], _ => exact hsix r r' g g' b b' rfl
  · match vs, hlength with
    | [r, r', g, g', b, b', a, a'], _ => exact height r r' g g' b b' a a' rfl

/-- **Slicing digits out of a text by positions comes to taking them one after the other.** -/
theorem ofHex_of_values {cs : List Char} {vs : List Nat} (h : HasValues cs vs) :
    ofHex (String.ofList cs) = (ofDigits? vs).elim (.error .unknown) .ok := by
  have hall := isHexDigit_of_values h
  have hsize : (String.ofList cs).utf8ByteSize = vs.length := by
    rw [utf8ByteSize_ofList_of_ascii fun c hc => utf8Size_of_isHexDigit (hall c hc), h.length_eq]
  rw [ofHex, if_pos ((all_isHexByte_ofText cs).2 hall), hsize]
  fun_cases ofDigits? vs with
  | case1 r g b =>
    dsimp only [List.length_cons, List.length_nil]
    rw [doubledAt_of_values h 0 (by simp), doubledAt_of_values h 1 (by simp),
      doubledAt_of_values h 2 (by simp)]
    rfl
  | case2 r r' g g' b b' =>
    dsimp only [List.length_cons, List.length_nil]
    rw [pairAt_of_values h 0 (by simp), pairAt_of_values h 2 (by simp),
      pairAt_of_values h 4 (by simp)]
    rfl
  | case3 r r' g g' b b' a a' =>
    dsimp only [List.length_cons, List.length_nil]
    rw [pairAt_of_values h 0 (by simp), pairAt_of_values h 2 (by simp),
      pairAt_of_values h 4 (by simp), pairAt_of_values h 6 (by simp)]
    rfl
  | case4 _ hthree hsix height =>
    have hlength := length_not_mem hthree hsix height
    split
    case h_1 hthree => exact absurd (by simp [hthree]) hlength
    case h_2 hsix => exact absurd (by simp [hsix]) hlength
    case h_3 height => exact absurd (by simp [height]) hlength
    case h_4 => rfl

/-- **The colour of any characters**: that of their values where all are digits. -/
theorem ofHex_ofList (cs : List Char) :
    ofHex (String.ofList cs) = (ofHexDigits? cs).elim (.error .unknown) .ok := by
  unfold ofHexDigits?
  by_cases hall : ∀ c ∈ cs, IsHexDigit c
  · obtain ⟨vs, hvs⟩ := exists_values hall
    rw [mapM_hexValue?_eq_some_iff.2 hvs]
    exact ofHex_of_values hvs
  · have hnone : cs.mapM hexValue? = none := by
      rw [Option.eq_none_iff_forall_ne_some]
      intro vs hvs
      exact hall (isHexDigit_of_values (mapM_hexValue?_eq_some_iff.1 hvs))
    rw [ofHex, if_neg (mt (all_isHexByte_ofText cs).1 hall), hnone]
    rfl

/-! ## (4) Texts -/

/-- What may stand before the digits. -/
def markers : List String := ["", "#", "rgb:"]

/-- **The texts of colours in normal form**: a name, or 3, 6 or 8 digits after a marker. -/
def IsColourText (s : String) : Prop :=
  (∃ c, (s, c) ∈ names) ∨
    ∃ marker ∈ markers, ∃ digits : List Char, s = marker ++ String.ofList digits ∧
      (∀ c ∈ digits, IsHexDigit c) ∧ digits.length ∈ [3, 6, 8]

theorem isSome_ofDigits?_iff {vs : List Nat} :
    (ofDigits? vs).isSome = true ↔ vs.length ∈ [3, 6, 8] := by
  fun_cases ofDigits? vs with
  | case4 _ hthree hsix height =>
    have hlength := length_not_mem hthree hsix height
    exact ⟨nofun, fun h => absurd h hlength⟩
  | _ => simp

/-- **Digits make a colour if there are 3, 6 or 8 of them.** -/
theorem isSome_ofHexDigits?_iff {cs : List Char} :
    (ofHexDigits? cs).isSome = true ↔ (∀ c ∈ cs, IsHexDigit c) ∧ cs.length ∈ [3, 6, 8] := by
  constructor
  · intro h
    obtain ⟨colour, hcolour⟩ := Option.isSome_iff_exists.1 h
    obtain ⟨vs, hvs, hdigits⟩ := Option.bind_eq_some_iff.1 hcolour
    rw [mapM_hexValue?_eq_some_iff] at hvs
    refine ⟨isHexDigit_of_values hvs, ?_⟩
    rw [hvs.length_eq, ← isSome_ofDigits?_iff, hdigits]
    rfl
  · rintro ⟨hall, hlength⟩
    obtain ⟨vs, hvs⟩ := exists_values hall
    rw [ofHexDigits?, mapM_hexValue?_eq_some_iff.2 hvs]
    rw [hvs.length_eq] at hlength
    exact isSome_ofDigits?_iff.2 hlength

/-- A text is a marker and what is left without it. -/
theorem exists_marker (cs : List Char) :
    ∃ marker ∈ markers, String.ofList cs = marker ++ String.ofList (withoutMarker cs) := by
  unfold withoutMarker
  split
  next cs =>
    refine ⟨"#", by decide, ?_⟩
    apply String.toList_injective
    simp
  next cs =>
    refine ⟨"rgb:", by decide, ?_⟩
    apply String.toList_injective
    simp
  next => exact ⟨"", by decide, by simp⟩

section Marked

variable {marker : String} {cs : List Char}

theorem withoutMarker_append (hmarker : marker ∈ markers) (hcs : ∀ c ∈ cs, IsHexDigit c) :
    withoutMarker (marker.toList ++ cs) = cs := by
  -- digits begin with none of the markers themselves
  have hdigits : withoutMarker cs = cs := by
    unfold withoutMarker
    split
    · exact absurd (hcs '#' List.mem_cons_self) (by decide)
    · exact absurd (hcs 'r' List.mem_cons_self) (by decide)
    · rfl
  simp only [markers, List.mem_cons, List.not_mem_nil, or_false] at hmarker
  rcases hmarker with rfl | rfl | rfl
  · exact hdigits
  · rfl
  · rfl

/-- **A name is no digits, with or without a marker.** -/
theorem lookup_marker_append (hmarker : marker ∈ markers) (hcs : ∀ c ∈ cs, IsHexDigit c) :
    names.lookup (marker ++ String.ofList cs) = none := by
  -- every name has a letter that is no digit
  have hnames : ∀ p ∈ names,
      ((withoutMarker p.1.toList).all fun c => (hexValue? c).isSome) = false := by decide
  rw [List.lookup_eq_none_iff]
  intro p hp
  rw [bne_iff_ne]
  intro heq
  have hname := hnames p hp
  rw [← heq, String.toList_append, String.toList_ofList, withoutMarker_append hmarker hcs,
    List.all_eq_false] at hname
  obtain ⟨c, hc, hvalue⟩ := hname
  exact hvalue (hexValue?_isSome_iff.2 (hcs c hc))

theorem normalText_marker_append (hmarker : marker ∈ markers) (hcs : ∀ c ∈ cs, IsHexDigit c) :
    normalText (marker ++ String.ofList cs) = marker ++ String.ofList (cs.map Char.toLower) := by
  have hmarkers : ∀ m ∈ markers, m.toList.any Text.isBlank = false ∧
      m.toList.map Char.toLower = m.toList := by decide
  have hblank : ∀ c ∈ marker.toList ++ cs, Text.isBlank c = false := by
    intro c hc
    rcases List.mem_append.1 hc with hc | hc
    · exact Bool.eq_false_iff.2 (List.any_eq_false.1 (hmarkers marker hmarker).1 c hc)
    · obtain ⟨v, hv⟩ := (hcs c hc).exists_value
      exact isBlank_of_hexValue? hv
  apply String.toList_injective
  rw [normalText, toList_lowerAscii, Text.toList_trim, String.toList_append, String.toList_ofList,
    Text.trimChars_of_not_blank hblank, List.map_append, (hmarkers marker hmarker).2,
    String.toList_append, String.toList_ofList]

end Marked

/-- **What a text gives**: the colour of its name, or that of the digits after the marker. -/
theorem read_eq (s : String) :
    read s = ((names.lookup (normalText s)).or
      (ofHexDigits? (withoutMarker (normalText s).toList))).elim (.error .unknown) .ok := by
  unfold read
  dsimp only
  rw [ofHex_ofList]
  generalize names.lookup (normalText s) = named
  cases named with
  | some c => rw [Option.some_or, Option.elim_some]
  | none => rw [Option.none_or]

/-- Nothing but a text that is not understood is refused. -/
theorem failsOnly_read (s : String) : FailsOnly (· = .unknown) (read s) := by
  rw [read_eq]
  generalize (names.lookup (normalText s)).or _ = found
  cases found with
  | some c => exact .ok c
  | none => exact .error rfl

/-- The colour of a text by its name or its digits. -/
theorem ofText?_eq (s : String) :
    ofText? s = (names.lookup (normalText s)).or
      (ofHexDigits? (withoutMarker (normalText s).toList)) := by
  rw [ofText?, read_eq]
  generalize (names.lookup (normalText s)).or _ = found
  cases found with
  | some c => rfl
  | none => rfl

theorem normalText_normalText (s : String) : normalText (normalText s) = normalText s := by
  simp only [normalText, Text.trim_lowerAscii, Text.trim_trim, lowerAscii_lowerAscii]

/-- **White space around a text and the case of its letters do not matter.** -/
theorem ofText?_normalText (s : String) : ofText? (normalText s) = ofText? s := by
  rw [ofText?_eq, ofText?_eq, normalText_normalText]

theorem ofHexDigits?_map_toLower (cs : List Char) :
    ofHexDigits? (cs.map Char.toLower) = ofHexDigits? cs := by
  have hvalues : hexValue? ∘ Char.toLower = hexValue? := funext hexValue?_toLower
  rw [ofHexDigits?, List.mapM_map, hvalues, ofHexDigits?]

theorem isHexDigit_toLower {c : Char} (h : IsHexDigit c) : IsHexDigit c.toLower := by
  rw [← hexValue?_isSome_iff] at h ⊢
  rwa [hexValue?_toLower]

/-- **Digits give the colour of their values, after whichever marker.** -/
theorem ofText?_marker_append {marker : String} {cs : List Char} (hmarker : marker ∈ markers)
    (hcs : ∀ c ∈ cs, IsHexDigit c) :
    ofText? (marker ++ String.ofList cs) = ofHexDigits? cs := by
  have hlower : ∀ c ∈ cs.map Char.toLower, IsHexDigit c := by
    intro c hc
    obtain ⟨d, hd, rfl⟩ := List.mem_map.1 hc
    exact isHexDigit_toLower (hcs d hd)
  rw [ofText?_eq, normalText_marker_append hmarker hcs, lookup_marker_append hmarker hlower,
    Option.none_or, String.toList_append, String.toList_ofList, withoutMarker_append hmarker hlower,
    ofHexDigits?_map_toLower]

/-- **The texts that give colours.** -/
theorem isSome_ofText?_iff {s : String} :
    (ofText? s).isSome = true ↔ IsColourText (normalText s) := by
  rw [ofText?_eq, Option.isSome_or, Bool.or_eq_true, isSome_ofHexDigits?_iff]
  refine or_congr ?_ ⟨?_, ?_⟩
  · rw [List.lookup_isSome_iff]
    constructor
    · rintro ⟨⟨name, c⟩, hmem, hname⟩
      rw [eq_of_beq hname]
      exact ⟨c, hmem⟩
    · rintro ⟨c, hmem⟩
      exact ⟨(normalText s, c), hmem, beq_self_eq_true _⟩
  · rintro ⟨hall, hlength⟩
    obtain ⟨marker, hmarker, htext⟩ := exists_marker (normalText s).toList
    rw [String.ofList_toList] at htext
    exact ⟨marker, hmarker, _, htext, hall, hlength⟩
  · rintro ⟨marker, hmarker, digits, htext, hall, hlength⟩
    rw [htext, String.toList_append, String.toList_ofList, withoutMarker_append hmarker hall]
    exact ⟨hall, hlength⟩

/-- **A text gives a colour of its own** exactly where the default does not show. -/
theorem exists_ofValue_eq_iff {t : String} :
    (∃ c, ∀ d, ofValue d (some (.text t)) = c) ↔ (ofText? t).isSome = true := by
  simp only [ofValue]
  cases ofText? t with
  | some c => exact ⟨fun _ => rfl, fun _ => ⟨c, fun _ => rfl⟩⟩
  | none =>
    refine ⟨?_, nofun⟩
    rintro ⟨c, hc⟩
    -- two defaults are two colours
    exact absurd ((hc black).trans (hc white).symm) (by decide)

/-! ## (5) Writing -/

/-- A byte is put together again from its halves. -/
theorem byteOf_halves (b : UInt8) : byteOf (b.toNat / 16) (b.toNat % 16) = b := by
  have hlt : b.toNat < 256 := b.toNat_lt
  rw [← UInt8.toNat_inj, toNat_byteOf (by omega) (by omega)]
  omega

/-- **The digits that are written have the halves of the bytes as their values.** -/
theorem hasValues_hexByte (b : UInt8) : HasValues (hexByte b) [b.toNat / 16, b.toNat % 16] := by
  have hdigit : ∀ n < 16, hexValue? (Nat.digitChar n) = some n := by decide
  have hlt : b.toNat < 256 := b.toNat_lt
  exact .cons (hdigit _ (by omega)) (.cons (hdigit _ (by omega)) .nil)

theorem hasValues_hexDigits (c : Colour) :
    HasValues c.hexDigits [c.red.toNat / 16, c.red.toNat % 16, c.green.toNat / 16,
      c.green.toNat % 16, c.blue.toNat / 16, c.blue.toNat % 16, c.alpha.toNat / 16,
      c.alpha.toNat % 16] := by
  have hred := hasValues_hexByte c.red
  have hgreen := hasValues_hexByte c.green
  have hblue := hasValues_hexByte c.blue
  have halpha := hasValues_hexByte c.alpha
  exact List.rel_append (List.rel_append (List.rel_append hred hgreen) hblue) halpha

/-- **The digits of a colour are read back as the colour.** -/
theorem ofHexDigits?_hexDigits (c : Colour) : ofHexDigits? c.hexDigits = some c := by
  rw [ofHexDigits?, mapM_hexValue?_eq_some_iff.2 (hasValues_hexDigits c)]
  simp only [Option.bind_some, ofDigits?, byteOf_halves]

theorem ofText?_of_digits {cs : List Char} (hcs : ∀ c ∈ cs, IsHexDigit c) :
    ofText? (String.ofList cs) = ofHexDigits? cs := by
  have hplain := ofText?_marker_append (show "" ∈ markers by decide) hcs
  rwa [String.empty_append] at hplain

/-- **Three digits are short for six.** -/
theorem ofHexDigits?_doubled {x y z : Char} (hall : ∀ c ∈ [x, y, z], IsHexDigit c) :
    ofHexDigits? [x, y, z] = ofHexDigits? [x, x, y, y, z, z] := by
  obtain ⟨vs, hvs⟩ := exists_values hall
  match vs, hvs with
  | [r, g, b], .cons hx (.cons hy (.cons hz .nil)) =>
    have hthree : HasValues [x, y, z] [r, g, b] := .cons hx (.cons hy (.cons hz .nil))
    have hsix : HasValues [x, x, y, y, z, z] [r, r, g, g, b, b] :=
      .cons hx (.cons hx (.cons hy (.cons hy (.cons hz (.cons hz .nil)))))
    rw [ofHexDigits?, ofHexDigits?, mapM_hexValue?_eq_some_iff.2 hthree,
      mapM_hexValue?_eq_some_iff.2 hsix]
    rfl

/-- **Six digits are short for eight with full alpha.** -/
theorem ofHexDigits?_opaque {cs : List Char} (hall : ∀ c ∈ cs, IsHexDigit c)
    (hlength : cs.length = 6) : ofHexDigits? cs = ofHexDigits? (cs ++ ['f', 'f']) := by
  obtain ⟨vs, hvs⟩ := exists_values hall
  have hf : HasValues ['f', 'f'] [15, 15] := by
    have hdigit : hexValue? 'f' = some 15 := by decide
    exact .cons hdigit (.cons hdigit .nil)
  have hvs' : HasValues (cs ++ ['f', 'f']) (vs ++ [15, 15]) := List.rel_append hvs hf
  rw [ofHexDigits?, ofHexDigits?, mapM_hexValue?_eq_some_iff.2 hvs,
    mapM_hexValue?_eq_some_iff.2 hvs']
  rw [hvs.length_eq] at hlength
  match vs, hlength with
  | [r, r', g, g', b, b'], _ =>
    have hfull : byteOf 15 15 = 255 := by decide
    show some _ = some (Colour.mk _ _ _ (byteOf 15 15))
    rw [hfull]

/-- **Colour texts are read exactly, and what is written is read back.** Reading takes no slice that
is not there; it does not see white space around a text or the case of its letters; it finds a colour
in the names and in 3, 6 or 8 digits after a marker, and gives the default otherwise. The marker does
not matter, three digits are short for six doubled ones and six for eight that end in `ff`. -/
theorem reads_exactly :
    (∀ t, FailsOnly (· = .unknown) (read t)) ∧
    (∀ d t, ofValue d (some (.text t)) = ofValue d (some (.text (normalText t)))) ∧
    (∀ t, (∃ c, ∀ d, ofValue d (some (.text t)) = c) ↔ IsColourText (normalText t)) ∧
    (∀ d t, ¬IsColourText (normalText t) → ofValue d (some (.text t)) = d) ∧
    (∀ d, ∀ marker ∈ markers, ∀ digits : List Char, (∀ c ∈ digits, IsHexDigit c) →
      ofValue d (some (.text (marker ++ String.ofList digits))) =
        ofValue d (some (.text (String.ofList digits)))) ∧
    (∀ d x y z, (∀ c ∈ [x, y, z], IsHexDigit c) →
      ofValue d (some (.text (String.ofList [x, y, z]))) =
        ofValue d (some (.text (String.ofList [x, x, y, y, z, z])))) ∧
    (∀ d, ∀ digits : List Char, (∀ c ∈ digits, IsHexDigit c) → digits.length = 6 →
      ofValue d (some (.text (String.ofList digits))) =
        ofValue d (some (.text (String.ofList (digits ++ ['f', 'f']))))) ∧
    ∀ c : Colour, ∃ digits : List Char, c.ffmpegText = "0x" ++ String.ofList digits ∧
      digits.length = 8 ∧ ∀ d, ofValue d (some (.text (String.ofList digits))) = c := by
  refine ⟨failsOnly_read, ?_, ?_, ?_, ?_, ?_, ?_, ?_⟩
  · intro d t
    simp only [ofValue, ofText?_normalText]
  · intro t
    rw [exists_ofValue_eq_iff, isSome_ofText?_iff]
  · intro d t ht
    rw [← isSome_ofText?_iff, Bool.not_eq_true, Option.isSome_eq_false_iff,
      Option.isNone_iff_eq_none] at ht
    simp only [ofValue, ht, Option.getD_none]
  · intro d marker hmarker digits hdigits
    simp only [ofValue, ofText?_marker_append hmarker hdigits, ofText?_of_digits hdigits]
  · intro d x y z hall
    have hall' : ∀ c ∈ [x, x, y, y, z, z], IsHexDigit c := by
      intro c hc
      exact hall c (by simpa using hc)
    simp only [ofValue, ofText?_of_digits hall, ofText?_of_digits hall', ofHexDigits?_doubled hall]
  · intro d digits hdigits hlength
    have hf : IsHexDigit 'f' := by decide
    have hdigits' : ∀ c ∈ digits ++ ['f', 'f'], IsHexDigit c := by
      intro c hc
      rcases List.mem_append.1 hc with hc | hc
      · exact hdigits c hc
      · rw [List.eq_of_mem_replicate (n := 2) hc]
        exact hf
    simp only [ofValue, ofText?_of_digits hdigits, ofText?_of_digits hdigits',
      ofHexDigits?_opaque hdigits hlength]
  · intro c
    have hdigits := isHexDigit_of_values (hasValues_hexDigits c)
    refine ⟨c.hexDigits, rfl, (hasValues_hexDigits c).length_eq, fun d => ?_⟩
    simp only [ofValue, ofText?_of_digits hdigits, ofHexDigits?_hexDigits, Option.getD_some]

/-- Orange in its shortest spelling is the colour that is written with eight digits, and a word that is
no name shows the default. -/
theorem reads_exactly_orange :
    (∀ c ∈ ['f', '8', '0'], IsHexDigit c) ∧
      (∀ d, ofValue d (some (.text "#f80")) = ⟨255, 136, 0, 255⟩) ∧
      ¬IsColourText (normalText "mauve") ∧ ∀ d, ofValue d (some (.text "mauve")) = d := by
  have hdigits (cs : List Char) (hcs : (cs.all fun c => (hexValue? c).isSome) = true) :
      ∀ c ∈ cs, IsHexDigit c :=
    fun c hc => hexValue?_isSome_iff.1 (List.all_eq_true.1 hcs c hc)
  have hmauve : ¬IsColourText (normalText "mauve") := by
    rw [← isSome_ofText?_iff]
    decide +kernel
  obtain ⟨-, -, -, hdefault, hmarked, hthree, hsix, hwritten⟩ := reads_exactly
  have hall := hdigits ['f', '8', '0'] (by decide)
  refine ⟨hall, fun d => ?_, hmauve, fun d => hdefault d "mauve" hmauve⟩
  obtain ⟨digits, htext, -, hread⟩ := hwritten ⟨255, 136, 0, 255⟩
  have height : String.ofList digits = String.ofList ['f', 'f', '8', '8', '0', '0', 'f', 'f'] := by
    have hspelled : ffmpegText ⟨255, 136, 0, 255⟩ = "0x" ++ "ff8800ff" := by decide +kernel
    exact (String.append_right_inj "0x").1 (htext.symm.trans hspelled)
  -- without the marker, doubled, with its alpha, and then as it is written
  calc ofValue d (some (.text "#f80"))
      = ofValue d (some (.text (String.ofList ['f', '8', '0']))) :=
        hmarked d "#" (by decide) ['f', '8', '0'] hall
    _ = ofValue d (some (.text (String.ofList ['f', 'f', '8', '8', '0', '0']))) :=
        hthree d 'f' '8' '0' hall
    _ = ofValue d (some (.text (String.ofList ['f', 'f', '8', '8', '0', '0', 'f', 'f']))) :=
        hsix d ['f', 'f', '8', '8', '0', '0'] (hdigits _ (by decide)) rfl
    _ = ⟨255, 136, 0, 255⟩ := by rw [← height, hread d]

-- a ligature, a marker after a marker, a wrong number of digits, and a colour at last
example : read "ﬀ" = .error .unknown ∧ read "#rgb:fff" = .error .unknown ∧
    read " RGB:0F80 " = .error .unknown ∧ read " RGB:0F8 " = .ok ⟨0, 255, 136, 255⟩ := by
  decide +kernel

end Colour

end MediaTransform
