import MediaTransform.Image.Buffer
import MediaTransform.Proofs.Text.Utf8

/-! # What files begin with

* **`ImageFormat.recognise_of_matches`** — bytes are of the format of a signature that they begin with,
  where all signatures before it differ from it.
* **`ImageFormat.matchesSignature_encode`** — every file begins like its format.
* **`ImageFormat.recognise_encode`** — files are recognised as their format, and
  **`eq_of_recognise_encode`** as no other one. -/

namespace MediaTransform

/-! ## (1) Signatures -/

namespace ImageFormat

variable {s t : List (Option UInt8)} {b c : Bytes} {f g : ImageFormat}

/-- A signature in two parts is that of bytes in two parts. -/
theorem matchesSignature_append (hlength : s.length = b.length) (hb : matchesSignature s b = true)
    (hc : matchesSignature t c = true) : matchesSignature (s ++ t) (b ++ c) = true := by
  induction s generalizing b with
  | nil =>
    rw [List.eq_nil_of_length_eq_zero hlength.symm]
    exact hc
  | cons o s ih =>
    cases b with
    | nil => cases hlength
    | cons x b =>
      have hrest := ih (Nat.succ.inj hlength)
      cases o with
      | none => exact hrest hb
      | some y =>
        obtain ⟨hxy, hb⟩ := Bool.and_eq_true_iff.1 hb
        exact Bool.and_eq_true_iff.2 ⟨hxy, hrest hb⟩

/-- Bytes begin with a signature of given bytes where these are their first ones. -/
theorem matchesSignature_of_first {first : Bytes} (h : first <+: b) :
    matchesSignature (first.map some) b = true := by
  obtain ⟨rest, rfl⟩ := h
  induction first with
  | nil => rfl
  | cons x first ih => exact Bool.and_eq_true_iff.2 ⟨beq_self_eq_true x, ih⟩

/-- Any byte may stand for nothing. -/
theorem matchesSignature_replicate_none (b : Bytes) :
    matchesSignature (List.replicate b.length none) b = true := by
  induction b with
  | nil => rfl
  | cons x b ih => exact ih

/-- **Two signatures that no bytes begin with both**: they differ in a byte that both give. -/
def clash : List (Option UInt8) → List (Option UInt8) → Bool
  | some x :: s, some y :: t => x != y || clash s t
  | _ :: s, _ :: t => clash s t
  | _, _ => false

theorem not_matchesSignature_of_clash (hclash : clash s t = true)
    (h : matchesSignature s b = true) : matchesSignature t b = false := by
  induction s generalizing t b with
  | nil => cases hclash
  | cons o s ih =>
    cases t with
    | nil => cases o <;> cases hclash
    | cons o' t =>
      cases b with
      | nil => cases o <;> cases h
      | cons z b =>
        cases o' with
        | none =>
          show matchesSignature t b = false
          cases o with
          | none => exact ih hclash h
          | some x => exact ih hclash (Bool.and_eq_true_iff.1 h).2
        | some y =>
          refine Bool.and_eq_false_iff.2 ?_
          cases o with
          | none => exact .inr (ih hclash h)
          | some x =>
            obtain ⟨hxz, h⟩ := Bool.and_eq_true_iff.1 h
            rw [← beq_iff_eq.1 hxz]
            rcases Bool.or_eq_true_iff.1 hclash with hxy | hrest
            · exact .inl (beq_eq_false_iff_ne.2 (bne_iff_ne.1 hxy).symm)
            · exact .inr (ih hrest h)

/-- **Bytes are of the format of a signature** that they begin with, if all signatures before it
differ from it. -/
theorem recognise_of_matches (hfirst : signatures.find? (fun t => !clash s t.1) = some (s, f))
    (h : matchesSignature s b = true) : recognise b = some f := by
  obtain ⟨-, before, after, hsplit, hbefore⟩ := List.find?_eq_some_iff_append.1 hfirst
  have hfind : signatures.find? (fun t => matchesSignature t.1 b) = some (s, f) := by
    refine List.find?_eq_some_iff_append.2 ⟨h, before, after, hsplit, fun t ht => ?_⟩
    have hclash : clash s t.1 = true := by simpa using hbefore t ht
    rw [not_matchesSignature_of_clash hclash h]
    rfl
  rw [recognise, hfind]
  rfl

/-! ## (2) Files -/

/-- **The formats that files are written in**; the other ones are only recognised. -/
def fileFormats : List ImageFormat :=
  [.png, .jpeg, .gif, .bmp, .tiff, .webp, .ico, .qoi, .pnm, .farbfeld]

/-- **What the files of a format begin with.** -/
def beginning : ImageFormat → List (Option UInt8)
  | png => Png.signature.map some
  | jpeg => ([0xff, 0xd8, 0xff] : Bytes).map some
  | gif => (Bytes.ofText "GIF89a").map some
  | bmp => Bmp.signature.map some
  | tiff => Tiff.signature.map some
  | webp => (Bytes.ofText "RIFF").map some ++ List.replicate 4 none ++
      (Bytes.ofText "WEBP").map some
  | ico => Icon.signature.map some
  | qoi => Qoi.signature.map some
  | pnm => (Bytes.ofText "P7").map some
  | farbfeld => Farbfeld.signature.map some
  | avif | dds | hdr | openexr => []

/-- All signatures before that of a format differ from it. -/
theorem find?_beginning (hf : f ∈ fileFormats) :
    signatures.find? (fun t => !clash f.beginning t.1) = some (f.beginning, f) := by
  revert f
  decide +kernel

/-- The size of a WebP stands between two names. -/
theorem exists_webp_encode_eq (p : Picture) : ∃ size rest, Webp.encode p
    = Bytes.ofText "RIFF" ++ (Bytes.littleEndian 4 size ++ (Bytes.ofText "WEBP" ++ rest)) := by
  have hname : Bytes.ofText "WEBPVP8L" = Bytes.ofText "WEBP" ++ Bytes.ofText "VP8L" :=
    Bytes.ofText_append "WEBP" "VP8L"
  unfold Webp.encode
  rw [hname]
  simp only [List.append_assoc]
  exact ⟨_, _, rfl⟩

theorem matchesSignature_webp (p : Picture) :
    matchesSignature webp.beginning (Webp.encode p) = true := by
  obtain ⟨size, rest, hencode⟩ := exists_webp_encode_eq p
  have hsize := matchesSignature_replicate_none (Bytes.littleEndian 4 size)
  rw [Bytes.length_littleEndian] at hsize
  have hname : matchesSignature ((Bytes.ofText "WEBP").map some) (Bytes.ofText "WEBP" ++ rest) :=
    matchesSignature_of_first (List.prefix_append _ _)
  rw [hencode, beginning, List.append_assoc]
  exact matchesSignature_append (List.length_map _)
    (matchesSignature_of_first (List.prefix_refl _))
    (matchesSignature_append (by simp) hsize hname)

theorem prefix_pnm_encode (p : Picture) : Bytes.ofText "P7" <+: Pnm.encode p := by
  have hhead : "P7\nWIDTH " = "P7" ++ "\nWIDTH " := by decide
  unfold Pnm.encode Pnm.headerText
  rw [hhead]
  simp only [String.append_assoc]
  rw [Bytes.ofText_append, List.append_assoc]
  exact List.prefix_append _ _

/-- **Every file begins like its format**, whatever picture it holds. -/
theorem matchesSignature_encode (hf : f ∈ fileFormats) (quality : Option Nat) (p : Picture) :
    matchesSignature f.beginning (f.encode quality p) = true := by
  cases f with
  | webp => exact matchesSignature_webp p
  | pnm => exact matchesSignature_of_first (prefix_pnm_encode p)
  | avif | dds | hdr | openexr => exact absurd hf (by decide)
  | jpeg =>
    refine matchesSignature_of_first ?_
    dsimp only [encode]
    unfold Jpeg.encode Jpeg.sections Jpeg.segment
    exact List.prefix_append [0xff, 0xd8, 0xff] _
  | png | gif | bmp | tiff | ico | qoi | farbfeld =>
    refine matchesSignature_of_first ?_
    dsimp only [encode]
    simp only [Png.encode, Gif.encode, Bmp.encode, Tiff.encode, Icon.encode, Qoi.encode,
      Farbfeld.encode, List.append_assoc]
    exact List.prefix_append _ _

/-- **Files are recognised as their format.** -/
theorem recognise_encode (hf : f ∈ fileFormats) (quality : Option Nat) (p : Picture) :
    recognise (f.encode quality p) = some f :=
  recognise_of_matches (find?_beginning hf) (matchesSignature_encode hf quality p)

/-- **Files are of no other format**, and those without a format are of none. -/
theorem eq_of_recognise_encode {quality : Option Nat} {p : Picture}
    (h : recognise (f.encode quality p) = some g) : g = f := by
  by_cases hf : f ∈ fileFormats
  · rw [recognise_encode hf quality p] at h
    exact (Option.some.inj h).symm
  · have hempty : recognise [] = none := by decide +kernel
    cases f with
    | avif | dds | hdr | openexr => exact absurd (hempty.symm.trans h) nofun
    | _ => exact absurd (by decide) hf

end ImageFormat

/-- **An encoded picture is a file in its format.** -/
theorem Encoded.recognise_bytes (e : Encoded) (h : e.format ∈ ImageFormat.fileFormats) :
    ImageFormat.recognise e.bytes = some e.format :=
  ImageFormat.recognise_encode h e.quality e.picture

end MediaTransform
