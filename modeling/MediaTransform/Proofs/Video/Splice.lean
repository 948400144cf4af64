import MediaTransform.Proofs.Directive
import MediaTransform.Proofs.Url.Coercion
import MediaTransform.Proofs.Url.RoundTrip
import MediaTransform.Proofs.Url.Tokens
import MediaTransform.Proofs.Video.Change

/-! # The assets that paths splice

How the name of a spliced asset gets from a path into the command:

* **`Video.withoutMark_videoMark_append`**, **`withoutMark_of_not_prefix`** — the mark is taken off
  once, and a name without it stays as it is.
* **`Video.Splices`** — the assets that a path splices; `splices_iff_of_onlySegment` has them for a
  path that only splices.
* **`Video.splices_named_iff`** — the name is that of the path where the mark stands before it, and
  else where reading and printing it gives it back. -/

namespace MediaTransform

/-- The text of a number has characters. -/
theorem Number.text_ne_empty (x : Number) : x.text ≠ "" := by
  intro h
  cases x with
  | finite s m q hm =>
    have hdecimal := isDecimal_of_coerce (coerce_text (rfl : (Number.finite s m q hm).isFinite = true))
    rw [h] at hdecimal
    exact absurd hdecimal (by decide)
  | infinite s => exact absurd h (by cases s <;> decide)
  | nan => exact absurd h (by decide)

namespace Video

/-! ## (1) The mark -/

/-- **The mark is taken off**, once. -/
theorem withoutMark_videoMark_append (name : String) : withoutMark (videoMark ++ name) = name := by
  have hmark : videoMark.toList.isPrefixOf (videoMark ++ name).toList = true := by
    rw [String.toList_append, List.isPrefixOf_iff_prefix]
    exact List.prefix_append _ _
  rw [withoutMark, if_pos hmark, String.toList_append, List.drop_left, String.ofList_toList]

/-- A name without the mark stays as it is. -/
theorem withoutMark_of_not_prefix {name : String} (h : ¬videoMark.toList <+: name.toList) :
    withoutMark name = name := by
  rw [withoutMark, if_neg (mt List.isPrefixOf_iff_prefix.1 h)]

/-- The text of a number does not begin with the mark. -/
theorem withoutMark_number (x : Number) : withoutMark x.text = x.text := by
  refine withoutMark_of_not_prefix fun hmark => ?_
  -- the mark begins with a letter that no number is printed with
  exact Number.not_mem_text (by decide) (by decide) x
    (hmark.subset (by decide : 'v' ∈ videoMark.toList))

/-- **What is printed for a name without the mark** is no different. -/
theorem withoutMark_display_coerce {name : String} (h : ¬videoMark.toList <+: name.toList) :
    withoutMark (coerce name).display = (coerce name).display := by
  cases hvalue : coerce name with
  | number x => exact withoutMark_number x
  | text t =>
    obtain ⟨rfl, -⟩ := coerce_eq_text_iff.1 hvalue
    exact withoutMark_of_not_prefix h

theorem display_coerce_ne_empty {name : String} (h : name ≠ "") : (coerce name).display ≠ "" := by
  cases hvalue : coerce name with
  | number x => exact x.text_ne_empty
  | text t =>
    obtain ⟨rfl, -⟩ := coerce_eq_text_iff.1 hvalue
    exact h

/-- A name with the mark is no number. -/
theorem coerce_videoMark_append (name : String) :
    coerce (videoMark ++ name) = .text (videoMark ++ name) := by
  refine coerce_eq_text_iff.2 ⟨rfl, fun hdecimal => ?_⟩
  refine hdecimal.not_mem (c := 'v') (by decide) ?_
  rw [String.toList_append]
  exact List.mem_append_left _ (by decide)

/-! ## (2) Paths that only splice -/

/-- **A path splices these assets**: it is read, the registered operations plan its chain, and the
command joins these assets and no others, in this order. -/
def Splices (config : Config.Pipeline) (raw : String) (names : List String) : Prop :=
  ∃ r c, Request.parse raw = .ok r ∧ plan (registry config) r.chain = .ok c ∧ c.splices = names

variable (config : Config.Pipeline) {raw name : String}

/-- **The plan of a spec that splices** the asset of a value. -/
theorem plan_splice {ps : Params} {v : Value} (hv : ps.get? "l" = some v)
    (hname : withoutMark v.display ≠ "") :
    plan (registry config) [⟨"fl_splice", ps⟩]
      = .ok { splices := [withoutMark v.display] } := by
  have hhandler : (registry config).handlers.get? "fl_splice" = some splice :=
    get?_of_mem_operations (by simp [operations])
  have hstep : step ⟨"fl_splice", splice, ps⟩ {} = .ok { splices := [withoutMark v.display] } := by
    simp only [step, splice, hv, if_neg hname]
    rfl
  rw [plan, planFrom, Registry.fold_cons_of_some (Registry.resolve_of_get? hhandler ps), hstep]
  rfl

/-- **A path that only splices** joins the asset of the value that its name is read as. -/
theorem splices_iff_of_onlySegment (hcomma : ',' ∉ name.toList)
    (hname : withoutMark (coerce name).display ≠ "")
    (honly : Request.OnlySegment raw ("fl_splice,l_" ++ name)) (names : List String) :
    Splices config raw names ↔ names = [withoutMark (coerce name).display] := by
  have htoken : Token.WellFormed ⟨"l", name⟩ :=
    ⟨(by decide : '_' ∉ "l".toList), (by decide : ',' ∉ "l".toList), hcomma⟩
  have hsegment : "fl_splice,l_" ++ name
      = ",".intercalate ("fl_splice" :: [Token.mk "l" name].map Token.text) := by
    rw [← String.toList_inj]
    simp [Token.text]
  have hspec := Spec.ofSegment?_intercalate (by decide : "fl_splice" ≠ "") (by decide)
    (List.forall_mem_singleton.2 htoken)
  obtain ⟨r, hparse, hchain⟩ := honly.exists_parse (hsegment ▸ hspec)
  have hplan := plan_splice config
    (Dictionary.get?_insert .empty "l" "l" (coerce name)) hname
  constructor
  · -- a text is read as one request, which has one plan
    rintro ⟨r', c, hparse', hplan', rfl⟩
    cases hparse.symm.trans hparse'
    rw [hchain] at hplan'
    cases hplan.symm.trans hplan'
    rfl
  · rintro rfl
    exact ⟨r, _, hparse, by rw [hchain]; exact hplan, rfl⟩

/-! ## (3) The asset that a path names -/

/-- **Which asset a path splices.** With the mark before it, a name is that of the asset, character
for character. Without the mark the asset is that of the printed value, which is the name itself
exactly where the name is no number, or is written as numbers are printed. -/
theorem splices_named_iff (hne : name ≠ "")
    (hfree : Text.FreeOf ['/', ',', '?'] name) (hmark : ¬"video:".toList <+: name.toList) :
    (∀ raw, Request.OnlySegment raw ("fl_splice,l_video:" ++ name) →
      Splices config raw [name]) ∧
    ∀ raw, Request.OnlySegment raw ("fl_splice,l_" ++ name) →
      Splices config raw [(coerce name).display] ∧
      (Splices config raw [name] ↔
        ¬DecimalText.IsDecimal name.toList ∨
          ∃ x : Number, x.isFinite = true ∧ name = x.text) := by
  have hcomma : ',' ∉ name.toList := hfree ',' (by decide)
  constructor
  · -- the mark is part of the value, and keeps it from being read as a number
    intro raw honly
    have hvalue : withoutMark (coerce (videoMark ++ name)).display = name := by
      rw [coerce_videoMark_append, Value.display, withoutMark_videoMark_append]
    have hsegment : "fl_splice,l_video:" ++ name = "fl_splice,l_" ++ (videoMark ++ name) := by
      rw [← String.append_assoc]
      rfl
    have hcomma' : ',' ∉ (videoMark ++ name).toList := by
      rw [String.toList_append, List.mem_append, not_or]
      exact ⟨by decide, hcomma⟩
    have hiff := splices_iff_of_onlySegment config hcomma' (hvalue.symm ▸ hne)
      (hsegment ▸ honly) [name]
    exact hiff.2 (by rw [hvalue])
  · intro raw honly
    have hvalue := withoutMark_display_coerce hmark
    have hiff := splices_iff_of_onlySegment config hcomma
      (hvalue.symm ▸ display_coerce_ne_empty hne) honly
    rw [hvalue] at hiff
    refine ⟨(hiff _).2 rfl, ?_⟩
    rw [hiff, ← display_coerce_eq_iff, List.cons.injEq, eq_comm]
    exact and_iff_left rfl

/-- A path that splices a row of digits with zeros before it. -/
def digitsPath : String := "/video/upload/fl_splice,l_007/clip.mp4"

/-- The same with the mark before the digits. -/
def markedPath : String := "/video/upload/fl_splice,l_video:007/clip.mp4"

theorem onlySegment_digitsPath : Request.OnlySegment digitsPath ("fl_splice,l_" ++ "007") :=
  ⟨["", "video"], ["fl_splice,l_007"], "clip.mp4",
    Request.shape_iff.2 ⟨by decide +kernel, by decide⟩, by decide +kernel⟩

/-- With the mark the digits are the name of the asset; without it the asset has another one. -/
theorem splices_named_iff_digits :
    Splices {} markedPath ["007"] ∧ Splices {} digitsPath ["7"] ∧
      ¬Splices {} digitsPath ["007"] := by
  obtain ⟨hmarked, hbare⟩ := splices_named_iff {} (by decide : "007" ≠ "") (by decide) (by decide)
  obtain ⟨hprinted, hiff⟩ := hbare digitsPath onlySegment_digitsPath
  have hdisplay : (coerce "007").display = "7" := by decide +kernel
  refine ⟨hmarked markedPath ?_, hdisplay ▸ hprinted, fun hname => ?_⟩
  · exact ⟨["", "video"], ["fl_splice,l_video:007"], "clip.mp4",
      Request.shape_iff.2 ⟨by decide +kernel, by decide⟩, by decide +kernel⟩
  · have hkept := display_coerce_eq_iff.2 (hiff.1 hname)
    rw [hdisplay] at hkept
    exact absurd hkept (by decide)

/-- **Not every name is that of the asset**: zeros before digits are lost. -/
theorem not_splices_named :
    ¬∀ (config : Config.Pipeline) (name raw : String), name ≠ "" →
      Text.FreeOf ['/', ',', '?'] name → ¬"video:".toList <+: name.toList →
      Request.OnlySegment raw ("fl_splice,l_" ++ name) → Splices config raw [name] := by
  intro h
  have hdisplay : withoutMark (coerce "007").display = "7" := by decide +kernel
  have hiff := splices_iff_of_onlySegment {} (by decide : ',' ∉ "007".toList)
    (hdisplay.symm ▸ by decide) onlySegment_digitsPath ["007"]
  have hname := hiff.1
    (h {} "007" digitsPath (by decide) (by decide) (by decide) onlySegment_digitsPath)
  rw [hdisplay] at hname
  exact absurd hname (by decide)

end Video

end MediaTransform
