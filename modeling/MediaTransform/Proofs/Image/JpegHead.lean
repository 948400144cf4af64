import MediaTransform.Image.Jpeg.Reader
import Mathlib.Algebra.BigOperators.Group.List.Basic
import Mathlib.Data.List.Nodup

/-! # The head of a JPEG file read back

A file is written as sections and a scan. What its sections say is read before anything is made of the
scan:

* **`Jpeg.headFrom_segment`**, **`headFrom_sections`** — one section, and then all of them up to the
  scan.
* **`Jpeg.exists_head_of_encode`** — the frame and the table of brightness of a written file.
* **`Jpeg.quality?_encode`** — the quality that is read is the one that was written. -/

namespace MediaTransform

namespace Jpeg

/-! ## (1) Sections -/

/-- **A section that is read as one before the scan**: its mark is neither a filler nor that of the
scan, and two bytes hold its length. -/
structure Stands (mark : UInt8) (contents : Bytes) : Prop where
  filler : mark ≠ 0xff
  scan : mark ≠ 0xda
  short : contents.length + 2 < 256 ^ 2

section Sections

variable {k : Known} {mark : UInt8} {contents : Bytes} {fuel : Nat}

/-- **One step over sections**: the scan ends them, and all others are added to what is known. -/
theorem headFrom_segment (hmark : mark ≠ 0xff) (hshort : contents.length + 2 < 256 ^ 2)
    (rest : Bytes) : headFrom (fuel + 1) k (segment mark contents ++ rest)
      = if mark = 0xda then some ⟨k, contents, rest⟩
        else (k.add? mark contents).bind fun k' => headFrom fuel k' rest := by
  have hlength := Bytes.big?_bigEndian_append 2 (contents.length + 2) (contents ++ rest)
  rw [Nat.mod_eq_of_lt hshort] at hlength
  have hcut := Bytes.cut?_append (Bytes.bigEndian 2 (contents.length + 2) ++ contents) rest
  rw [List.length_append, Bytes.length_bigEndian, Nat.add_comm, List.append_assoc] at hcut
  have hdrop : (Bytes.bigEndian 2 (contents.length + 2) ++ contents).drop 2 = contents :=
    List.drop_left' (Bytes.length_bigEndian _ _)
  simp only [segment, List.append_assoc, List.cons_append, List.nil_append]
  conv => lhs; unfold headFrom
  split
  · rename_i hb
    injection hb with _ hb
    injection hb with hb _
    exact absurd hb hmark
  · rename_i hb
    injection hb with _ hb
    injection hb with hb hb'
    subst hb hb'
    have hmax : max (contents.length + 2) 2 = contents.length + 2 := Nat.max_eq_left (by omega)
    simp only [hlength, Option.bind_eq_bind, Option.bind_some, hmax, hcut, hdrop]
    rfl
  · rename_i hne
    exact absurd rfl (hne mark _)

/-- **Sections are read one after the other**, as far as they can be added to what is known. -/
theorem headFrom_sections {before : List (UInt8 × Bytes)} (hbefore : ∀ s ∈ before, Stands s.1 s.2)
    (rest : Bytes) :
    headFrom (before.length + fuel) k ((before.flatMap fun s => segment s.1 s.2) ++ rest)
      = (before.foldlM (fun (k : Known) s => k.add? s.1 s.2) k).bind fun k' => headFrom fuel k' rest := by
  induction before generalizing k with
  | nil => rw [List.length_nil, Nat.zero_add]; rfl
  | cons s before ih =>
    obtain ⟨hs, hbefore⟩ := List.forall_mem_cons.1 hbefore
    rw [List.length_cons, Nat.add_right_comm, List.flatMap_cons, List.append_assoc,
      headFrom_segment hs.filler hs.short, if_neg hs.scan, List.foldlM_cons]
    cases k.add? s.1 s.2 with
    | none => rfl
    | some k' => exact ih hbefore

end Sections

/-! ## (2) The head of a file -/

/-- The channels of a picture as they are read. -/
def componentsOf (numbers : List (UInt8 × UInt8)) : List Component :=
  numbers.map fun n => ⟨n.1.toNat, 1, 1, n.2.toNat⟩

theorem componentsFrom_flatMap (numbers : List (UInt8 × UInt8)) :
    componentsFrom numbers.length (numbers.flatMap fun n => [n.1, 0x11, n.2])
      = some (componentsOf numbers) := by
  induction numbers with
  | nil => rfl
  | cons n numbers ih =>
    rw [List.length_cons, List.flatMap_cons]
    show (componentsFrom numbers.length (numbers.flatMap fun n => [n.1, 0x11, n.2])).bind _ = _
    rw [ih]
    rfl

/-- **The frame of a picture**, whose sides are held to two bytes. -/
theorem frameOf?_frameContents (p : Picture) :
    frameOf? (frameContents p) = some ⟨p.width % 256 ^ 2, p.height % 256 ^ 2,
      componentsOf (channelNumbers p.colour.coloured)⟩ := by
  have hbits (rest : Bytes) : Bytes.big? 1 ([8] ++ rest) = some (8, rest) :=
    Bytes.big?_bigEndian_append 1 8 rest
  have hcount (rest : Bytes) : Bytes.big? 1 ([(channelNumbers p.colour.coloured).length.toUInt8] ++ rest)
      = some ((channelNumbers p.colour.coloured).length, rest) := by
    cases p.colour.coloured
    · exact Bytes.big?_bigEndian_append 1 1 rest
    · exact Bytes.big?_bigEndian_append 1 3 rest
  unfold frameContents
  simp only [List.append_assoc]
  unfold frameOf?
  -- one field after the other is read, and the rest of each is what follows it
  rw [hbits]
  dsimp only [Option.bind_eq_bind, Option.bind_some]
  rw [Bytes.big?_bigEndian_append]
  dsimp only [Option.bind_some]
  rw [Bytes.big?_bigEndian_append]
  dsimp only [Option.bind_some]
  rw [hcount]
  dsimp only [Option.bind_some]
  rw [componentsFrom_flatMap]
  rfl

@[simp] theorem length_inWaveOrder (table : List Nat) : (inWaveOrder table).length = 64 := by
  rw [inWaveOrder, List.length_map]
  rfl

theorem map_toNat_toUInt8 {values : List Nat} (h : ∀ v ∈ values, v < 256) :
    (values.map (·.toUInt8)).map (·.toNat) = values := by
  rw [List.map_map]
  conv => rhs; rw [← List.map_id values]
  exact List.map_congr_left fun v hv => Nat.mod_eq_of_lt (h v hv)

/-- **A table of quantizers is read back**, if its values fit into bytes. -/
theorem tablesFrom_quantizerContents {number : UInt8} (hnumber : number.toNat < 16)
    {table : List Nat} (htable : ∀ v ∈ inWaveOrder table, v < 256) :
    tablesFrom (quantizerContents number table).length (quantizerContents number table)
      = [(number.toNat, inWaveOrder table)] := by
  have hlength : ((inWaveOrder table).map (·.toUInt8)).length = 64 := by simp
  rw [quantizerContents, List.length_cons, tablesFrom, Nat.div_eq_of_lt hnumber,
    Nat.mod_eq_of_lt hnumber]
  simp only [if_true, Nat.mul_one]
  rw [List.take_of_length_le (Nat.le_of_eq hlength),
    List.drop_eq_nil_of_le (Nat.le_of_eq hlength), map_toNat_toUInt8 htable,
    hlength]
  rfl

theorem lt_of_mem_quantizers (quality : Nat) (table : List Nat) :
    ∀ v ∈ inWaveOrder (quantizers quality table), v < 256 := by
  intro v hv
  obtain ⟨i, -, rfl⟩ := List.mem_map.1 hv
  rw [quantizers, List.getD_eq_getElem?_getD, List.getElem?_map]
  cases table[i]? with
  | none => exact Nat.zero_lt_succ _
  | some w => show max 1 (min 255 _) < 256; omega

section Sections

variable (k : Known) (contents : Bytes)

theorem add?_quantizers {number : UInt8} (hnumber : number.toNat < 16) (quality : Nat)
    (table : List Nat) :
    k.add? 0xdb (quantizerContents number (quantizers quality table)) = some { k with
      tables := (number.toNat, inWaveOrder (quantizers quality table)) :: k.tables } := by
  rw [Known.add?, if_pos rfl,
    tablesFrom_quantizerContents hnumber (lt_of_mem_quantizers quality table)]
  rfl

theorem add?_codes :
    k.add? 0xc4 contents
      = some { k with codes := codesFrom contents.length contents ++ k.codes } := rfl

theorem add?_frame (p : Picture) :
    k.add? 0xc0 (frameContents p) = some { k with
      frame := some ⟨p.width % 256 ^ 2, p.height % 256 ^ 2,
        componentsOf (channelNumbers p.colour.coloured)⟩ } := by
  rw [Known.add?, if_neg (by decide), if_neg (by decide), if_pos (.inl rfl),
    frameOf?_frameContents]
  rfl

theorem add?_other : k.add? 0xe0 contents = some k := rfl

end Sections

/-- **What is known of a file after its sections**: its frame, and the table of brightness. -/
theorem exists_known_of_sections (p : Picture) (quality : Nat) : ∃ k : Known,
    (sections p quality).foldlM (fun (k : Known) s => k.add? s.1 s.2) {} = some k ∧
    k.frame = some ⟨p.width % 256 ^ 2, p.height % 256 ^ 2,
      componentsOf (channelNumbers p.colour.coloured)⟩ ∧
    k.tables.lookup 0 = some (inWaveOrder (quantizers quality brightnessTable)) := by
  have hzero : (0 : UInt8).toNat < 16 := by decide
  have hone : (1 : UInt8).toNat < 16 := by decide
  rw [sections]
  cases hcoloured : p.colour.coloured <;>
    simp only [if_true, Bool.false_eq_true, if_false, List.cons_append, List.nil_append,
      List.append_nil, List.foldlM_cons, List.foldlM_nil, add?_other, add?_frame, add?_codes,
      add?_quantizers _ hzero, add?_quantizers _ hone, hcoloured, Option.bind_eq_bind,
      Option.bind_some]
  · exact ⟨_, rfl, rfl, rfl⟩
  · exact ⟨_, rfl, rfl, rfl⟩

theorem length_quantizerContents (number : UInt8) (table : List Nat) :
    (quantizerContents number table).length = 65 := by
  simp [quantizerContents]

theorem length_frameContents (p : Picture) : (frameContents p).length ≤ 15 := by
  rw [frameContents]
  cases p.colour.coloured <;> simp [channelNumbers]

/-- **All sections of a file stand before its scan.** -/
theorem stands_of_mem_sections (p : Picture) (quality : Nat) :
    ∀ s ∈ sections p quality, Stands s.1 s.2 := by
  have hquantizers (number : UInt8) (table : List Nat) :
      Stands 0xdb (quantizerContents number table) :=
    ⟨by decide, by decide, by rw [length_quantizerContents]; decide⟩
  have hframe : Stands 0xc0 (frameContents p) := by
    have hlength := length_frameContents p
    exact ⟨by decide, by decide, by omega⟩
  have hcodes : ∀ c ∈ [codeContents 0 brightnessSteps, codeContents 0x10 brightnessWaves,
      codeContents 1 tintSteps, codeContents 0x11 tintWaves], Stands 0xc4 c := fun c hc =>
    ⟨by decide, by decide, by revert c; decide +kernel⟩
  have hname : Stands 0xe0 (Bytes.ofText "JFIF" ++ [0, 1, 2, 0, 0, 1, 0, 1, 0, 0]) :=
    ⟨by decide, by decide, by decide +kernel⟩
  rw [sections]
  cases p.colour.coloured <;>
    simp only [if_true, Bool.false_eq_true, if_false, List.cons_append, List.nil_append,
      List.append_nil, List.forall_mem_cons] at hcodes ⊢
  · exact ⟨hname, hframe, hquantizers _ _, hcodes.1, hcodes.2.1, nofun⟩
  · exact ⟨hname, hframe, hquantizers _ _, hquantizers _ _, hcodes.1, hcodes.2.1,
      hcodes.2.2.1, hcodes.2.2.2.1, nofun⟩

theorem length_sections_le (p : Picture) (quality : Nat) (rest : Bytes) :
    (sections p quality).length
      ≤ (((sections p quality).flatMap fun s => segment s.1 s.2) ++ rest).length := by
  refine Nat.le_trans ?_ (List.prefix_append _ rest).length_le
  rw [List.length_flatMap]
  refine Nat.le_trans (Nat.le_of_eq (List.length_map _).symm)
    (List.length_le_sum_of_one_le _ fun n hn => ?_)
  obtain ⟨s, -, rfl⟩ := List.mem_map.1 hn
  exact Nat.succ_pos _

/-- **The head of a file** is that of its sections. -/
theorem exists_head_of_encode (p : Picture) (quality : Nat) : ∃ head : Head,
    head? (encode p quality) = some head ∧
    head.known.frame = some ⟨p.width % 256 ^ 2, p.height % 256 ^ 2,
      componentsOf (channelNumbers p.colour.coloured)⟩ ∧
    head.known.tables.lookup 0 = some (inWaveOrder (quantizers quality brightnessTable)) := by
  obtain ⟨k, hknown, hframe, htable⟩ := exists_known_of_sections p quality
  have hselection : (selection p.colour.coloured).length + 2 < 256 ^ 2 := by
    cases p.colour.coloured <;> decide
  refine ⟨⟨k, selection p.colour.coloured, packed (scan p quality) ++ [0xff, 0xd9]⟩, ?_, hframe,
    htable⟩
  rw [head?, encode, Bytes.after?_append]
  dsimp only [Option.bind_eq_bind, Option.bind_some]
  obtain ⟨more, hmore⟩ := Nat.exists_eq_add_of_le (length_sections_le p quality
    (segment 0xda (selection p.colour.coloured) ++ (packed (scan p quality) ++ [0xff, 0xd9])))
  rw [hmore, Nat.add_assoc, headFrom_sections (stands_of_mem_sections p quality), hknown]
  have hscan : (0xda : UInt8) ≠ 0xff := by decide
  rw [Option.bind_some, headFrom_segment hscan hselection, if_pos rfl]

/-! ## (3) The quality of a file -/

/-- Two values of a table, of a coarse wave and of a fine one, which tell all qualities apart. -/
def roughness (table : List Nat) : Nat := table.getD 5 0 + table.getD 56 0

/-- **The better a quality, the less rough its table.** -/
theorem pairwise_roughness : ((List.range 100).map fun i =>
    roughness (inWaveOrder (quantizers (i + 1) brightnessTable))).Pairwise (· > ·) :=
  List.isChain_iff_pairwise.1 (by decide +kernel)

/-- **A quality is read off its table.** -/
theorem qualityOf?_inWaveOrder {quality : Nat} (hone : 1 ≤ quality) (hmost : quality ≤ 100) :
    qualityOf? (inWaveOrder (quantizers quality brightnessTable)) = some quality := by
  obtain ⟨i, rfl⟩ : ∃ i, quality = i + 1 := ⟨quality - 1, by omega⟩
  have hi : i ∈ List.range 100 := List.mem_range.2 (by omega)
  cases hfind : qualityOf? (inWaveOrder (quantizers (i + 1) brightnessTable)) with
  | none =>
    have hnot := List.find?_eq_none.1 hfind (i + 1) (List.mem_map_of_mem hi)
    exact absurd (beq_self_eq_true _) hnot
  | some found =>
    obtain ⟨j, hj, rfl⟩ := List.mem_map.1 (List.mem_of_find?_eq_some hfind)
    -- no other quality has the same table
    have htable : inWaveOrder (quantizers (j + 1) brightnessTable)
        = inWaveOrder (quantizers (i + 1) brightnessTable) := by
      unfold qualityOf? at hfind
      exact eq_of_beq (by simpa only using List.find?_some hfind)
    have hnodup := pairwise_roughness.imp fun h => Nat.ne_of_gt h
    rw [List.inj_on_of_nodup_map hnodup hj hi (congrArg roughness htable)]

/-- **The quality of a file is the one that it was written with**, whatever picture it holds. -/
theorem quality?_encode (p : Picture) {quality : Nat} (hone : 1 ≤ quality) (hmost : quality ≤ 100) :
    quality? (encode p quality) = some quality := by
  obtain ⟨head, hhead, hframe, htable⟩ := exists_head_of_encode p quality
  have hfirst : (componentsOf (channelNumbers p.colour.coloured)).head? = some ⟨1, 1, 1, 0⟩ := by
    cases p.colour.coloured <;> rfl
  simp only [quality?, hhead, hframe, hfirst, htable, Option.bind_eq_bind, Option.bind_some]
  exact qualityOf?_inWaveOrder hone hmost

end Jpeg

end MediaTransform
