import MediaTransform.Proofs.Media.Params
import MediaTransform.Proofs.Number.PlainText
import MediaTransform.Video.Operation

/-! # The filters that operations write

* **`Video.Filter`** — the filters by what they do, each with its text.
* **`Video.Filter.WellFormed`** — every side is in range, and a ratio is a finite number above zero.
* **`Video.Filter.OpenFor`** — which calls may leave a side to the picture that comes in.
* **`Video.IsFilterChar`** — the characters of filters, none of which separates or quotes anything
  in a graph; **`Video.Harmless`** — texts of such characters only.
* **`Video.Filter.harmless_text`** — the texts of well-formed filters are harmless. -/

namespace MediaTransform

namespace Video

/-! ## (1) Filters -/

/-- **A filter**, by what it does. -/
inductive Filter where
  /-- Scale to cover, then cut the overflow. -/
  | cover (w h : Nat)
  /-- Cut a window at an offset. -/
  | crop (w h x y : Nat)
  /-- Fit inside and pad with a colour. -/
  | pad (w h : Nat) (colour : Colour)
  /-- Fit inside. -/
  | fit (w h : Nat)
  /-- Scale to a width. -/
  | toWidth (w : Nat)
  /-- Scale to a height. -/
  | toHeight (h : Nat)
  /-- Scale to a size, with square pixels. -/
  | toSize (w h : Nat)
  /-- Scale the width to a ratio of the height, with square pixels. -/
  | toRatio (ratio : Number)
  /-- Blur with a radius. -/
  | blur (radius : Nat)
  deriving DecidableEq

namespace Filter

/-- **The text of a filter** in a graph. -/
def text : Filter → String
  | cover w h =>
    "scale=" ++ sizeText w h ++ ":force_original_aspect_ratio=increase,crop=" ++ sizeText w h
  | crop w h x y => "crop=" ++ sizeText w h ++ ":" ++ sizeText x y
  | pad w h colour =>
    "scale=" ++ sizeText w h ++ ":force_original_aspect_ratio=decrease,pad=" ++ sizeText w h ++
      ":(ow-iw)/2:(oh-ih)/2:color=" ++ colour.ffmpegText
  | fit w h => fitFilter w h
  | toWidth w => "scale=" ++ toString w ++ ":-2"
  | toHeight h => "scale=-2:" ++ toString h
  | toSize w h => "scale=" ++ sizeText w h ++ ",setsar=1"
  | toRatio ratio => "scale=trunc(ih*" ++ ratio.text ++ "/2)*2:ih,setsar=1"
  | blur radius =>
    "boxblur=luma_radius=" ++ toString radius ++ ":chroma_radius=" ++ toString radius

/-- **A filter that can be written**: its sides are in range, and its ratio is a finite number above
zero. -/
def WellFormed : Filter → Prop
  | cover w h | crop w h _ _ | pad w h _ | fit w h | toSize w h => IsSide w ∧ IsSide h
  | toWidth n | toHeight n => IsSide n
  | toRatio ratio => ratio.isFinite = true ∧ .ofNat 0 < ratio
  | blur _ => True

/-- **Who may leave a side open**: scaling that is given one side only, and reshaping that is given
none. No other call writes a filter that leaves a side to the picture that comes in. -/
def OpenFor (tag : String) (ps : Params) : Filter → Prop
  | toWidth _ => tag = "c_scale" ∧ ps.contains "h" = false
  | toHeight _ => tag = "c_scale" ∧ ps.contains "w" = false
  | toRatio _ => tag = "ar" ∧ ps.contains "w" = false ∧ ps.contains "h" = false
  | _ => True

end Filter

/-! ## (2) Their characters -/

/-- The characters of filters besides letters and digits. -/
def filterMarks : List Char := ['=', ':', ',', '_', '(', ')', '*', '/', '.', '-']

/-- **The characters of filters**: ASCII letters, ASCII digits and a few marks. -/
def IsFilterChar (c : Char) : Prop := c.isAlphanum = true ∨ c ∈ filterMarks

instance (c : Char) : Decidable (IsFilterChar c) :=
  inferInstanceAs (Decidable (_ ∨ _))

/-- **A harmless text** has characters of filters only. -/
def Harmless (text : String) : Prop := ∀ c ∈ text.toList, IsFilterChar c

instance (text : String) : Decidable (Harmless text) :=
  List.decidableBAll IsFilterChar text.toList

theorem isFilterChar_of_isDigit {c : Char} (h : c.isDigit = true) : IsFilterChar c :=
  .inl (by rw [Char.isAlphanum, h, Bool.or_true])

@[simp] theorem harmless_append {s t : String} : Harmless (s ++ t) ↔ Harmless s ∧ Harmless t := by
  simp only [Harmless, String.toList_append, List.forall_mem_append]

@[simp] theorem harmless_toString (n : Nat) : Harmless (toString n) :=
  fun _ hc => isFilterChar_of_isDigit (isDigit_of_mem_toString hc)

@[simp] theorem harmless_sizeText (w h : Nat) : Harmless (sizeText w h) := by
  simp only [sizeText, harmless_append, harmless_toString, true_and, and_true]
  decide

/-- The text of a finite number has digits, a sign and a point. -/
theorem harmless_number {x : Number} (h : x.isFinite = true) : Harmless x.text := by
  intro c hc
  rcases Number.mem_text_of_isFinite h hc with hdigit | rfl | rfl
  · exact isFilterChar_of_isDigit hdigit
  · decide
  · decide

/-- The digits of a colour are hexadecimal ones. -/
theorem isAlphanum_of_mem_hexDigits {colour : Colour} {c : Char} (h : c ∈ colour.hexDigits) :
    c.isAlphanum = true := by
  have hdigit : ∀ n < 16, (Nat.digitChar n).isAlphanum = true := by decide
  have hbyte (b : UInt8) (hb : c ∈ Colour.hexByte b) : c.isAlphanum = true := by
    have hlt : b.toNat < 256 := b.toNat_lt
    rw [Colour.hexByte, List.mem_cons, List.mem_singleton] at hb
    rcases hb with rfl | rfl
    · exact hdigit _ (by omega)
    · exact hdigit _ (by omega)
  rw [Colour.hexDigits] at h
  simp only [List.mem_append] at h
  rcases h with ((h | h) | h) | h
  all_goals exact hbyte _ h

/-- **A colour is harmless**, whatever text it was read from. -/
@[simp] theorem harmless_ffmpegText (colour : Colour) : Harmless colour.ffmpegText := by
  refine harmless_append.2 ⟨by decide, fun c hc => ?_⟩
  rw [String.toList_ofList] at hc
  exact .inl (isAlphanum_of_mem_hexDigits hc)

/-- **Well-formed filters are harmless**: between the fixed words stand naturals, colours and finite
numbers. -/
theorem Filter.harmless_text {f : Filter} (hf : f.WellFormed) : Harmless f.text := by
  unfold text
  cases f with
  | toRatio ratio =>
    simp only [harmless_append, harmless_number hf.1, and_true]
    decide
  -- in all other filters the texts between the words are harmless at any values
  | _ =>
    simp only [fitFilter, harmless_append, harmless_sizeText, harmless_toString,
      harmless_ffmpegText, and_true]
    decide

end Video

end MediaTransform
