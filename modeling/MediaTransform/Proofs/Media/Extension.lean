import MediaTransform.Proofs.Text.Cut
import MediaTransform.Proofs.Text.Normal
import MediaTransform.Service.Render

/-! # Two readings of a file extension

An asset has an extension where text stands on both sides of its last dot, and a media type where the
table knows what stands after it:

* **`Asset.extension_eq_some_iff`**, **`mimeOfId_eq_some_iff`** — the two readings, each by the form
  of the id.
* **`ReadsAlike`** — an id that both readings agree on, so that it is refused where it has none.
* **`IsBareMedia`** — an id that is a dot and an extension of the table, with nothing in front;
  `readsAlike_iff` says that the readings agree on all other ids and differ on these. -/

namespace MediaTransform

/-! ## (1) The forms of an id -/

/-- The extensions of the table are texts without a dot. -/
theorem dot_not_mem_of_mimeOfExtension {ext m : String} (h : mimeOfExtension ext = some m) :
    '.' ∉ ext.toList ∧ ext ≠ "" := by
  unfold mimeOfExtension at h
  split at h
  all_goals first | decide | cases h

theorem dot_mem_lowerAscii_iff {s : String} : '.' ∈ (lowerAscii s).toList ↔ '.' ∈ s.toList :=
  mem_lowerAscii_iff (by decide) (by decide)

/-- **An asset with an extension** is a text, a dot and a text without dots. -/
theorem Asset.extension_eq_some_iff {id e : String} :
    (Asset.mk id).extension = some e ↔
      ∃ stem ext, id = stem ++ "." ++ ext ∧ '.' ∉ ext.toList ∧ stem ≠ "" ∧ ext ≠ "" ∧
        lowerAscii ext = e := by
  constructor
  · intro h
    unfold Asset.extension at h
    split at h
    case h_1 stem ext hcut =>
      obtain ⟨hid, hdot⟩ := Text.cutLast?_eq_some_iff.1 hcut
      split at h
      · cases h
      · next hne =>
        rw [not_or] at hne
        exact ⟨stem, ext, hid, hdot, hne.1, hne.2, Option.some.inj h⟩
    case h_2 => cases h
  · rintro ⟨stem, ext, hid, hdot, hstem, hext, rfl⟩
    have hcut : Text.cutLast? '.' id = some (stem, ext) := Text.cutLast?_eq_some_iff.2 ⟨hid, hdot⟩
    simp [Asset.extension, hcut, hstem, hext]

/-- **An id with a media type** is any text, a dot and an extension of the table. -/
theorem mimeOfId_eq_some_iff {id m : String} :
    mimeOfId id = some m ↔
      ∃ stem ext, id = stem ++ "." ++ ext ∧ mimeOfExtension (lowerAscii ext) = some m := by
  constructor
  · intro h
    unfold mimeOfId at h
    split at h
    case h_1 stem ext hcut => exact ⟨stem, ext, (Text.cutLast?_eq_some_iff.1 hcut).1, h⟩
    case h_2 => cases h
  · rintro ⟨stem, ext, hid, hmime⟩
    have hdot : '.' ∉ ext.toList := by
      rw [← dot_mem_lowerAscii_iff]
      exact (dot_not_mem_of_mimeOfExtension hmime).1
    have hcut : Text.cutLast? '.' id = some (stem, ext) := Text.cutLast?_eq_some_iff.2 ⟨hid, hdot⟩
    simp [mimeOfId, hcut, hmime]

/-- **An id that is a dot and an extension of the table**, in any case, with nothing in front. -/
def IsBareMedia (id m : String) : Prop :=
  ∃ ext, id = "." ++ ext ∧ mimeOfExtension (lowerAscii ext) = some m

/-- **The media types that do not come with an extension** are those of the bare ids. -/
theorem extension_eq_none_and_mimeOfId_iff {id m : String} :
    (Asset.mk id).extension = none ∧ mimeOfId id = some m ↔ IsBareMedia id m := by
  constructor
  · rintro ⟨hext, hmime⟩
    obtain ⟨stem, ext, hid, hentry⟩ := mimeOfId_eq_some_iff.1 hmime
    obtain ⟨hdot, hne⟩ := dot_not_mem_of_mimeOfExtension hentry
    by_cases hstem : stem = ""
    · refine ⟨ext, ?_, hentry⟩
      rw [hid, hstem, String.empty_append]
    · -- with a stem the same cut would have given an extension
      have hsome : (Asset.mk id).extension = some (lowerAscii ext) := by
        rw [dot_mem_lowerAscii_iff] at hdot
        refine Asset.extension_eq_some_iff.2 ⟨stem, ext, hid, hdot, hstem, ?_, rfl⟩
        rintro rfl
        exact hne rfl
      rw [hext] at hsome
      cases hsome
  · rintro ⟨ext, hid, hentry⟩
    refine ⟨?_, mimeOfId_eq_some_iff.2 ⟨"", ext, by rw [hid, String.empty_append], hentry⟩⟩
    have hdot := (dot_not_mem_of_mimeOfExtension hentry).1
    rw [dot_mem_lowerAscii_iff] at hdot
    have hcut : Text.cutLast? '.' id = some ("", ext) :=
      Text.cutLast?_eq_some_iff.2 ⟨by rw [hid, String.empty_append]; rfl, hdot⟩
    simp [Asset.extension, hcut]

/-- The media type of an extension that there is. -/
theorem mimeOfId_of_extension {id e : String} (h : (Asset.mk id).extension = some e) :
    mimeOfId id = mimeOfExtension e := by
  obtain ⟨stem, ext, hid, hdot, -, -, rfl⟩ := Asset.extension_eq_some_iff.1 h
  have hcut : Text.cutLast? '.' id = some (stem, ext) := Text.cutLast?_eq_some_iff.2 ⟨hid, hdot⟩
  simp [mimeOfId, hcut]

/-! ## (2) Agreement -/

/-- **An id that both readings agree on**: its media type is the entry of the table for its
extension, and without an extension it is refused in every known domain. -/
structure ReadsAlike (id : String) : Prop where
  mime : ∀ m, mimeOfId id = some m ↔
    ∃ ext, (Asset.mk id).extension = some ext ∧ mimeOfExtension ext = some m
  refused : (Asset.mk id).extension = none → ∀ domain d, Domain.ofName (domain.getD "") = .ok d →
    Route.settle domain ⟨id⟩ = .error (.unsupportedMedia id)

/-- A route in a known domain is settled by the media type. -/
theorem Route.settle_of_ofName {domain : Option String} {d : Domain}
    (h : Domain.ofName (domain.getD "") = .ok d) (id : String) :
    Route.settle domain ⟨id⟩ =
      match mimeOfId id with
      | some m => .ok ⟨d, m⟩
      | none => .error (.unsupportedMedia id) := by
  unfold Route.settle
  rw [h]
  rfl

/-- **The two readings agree on an id unless it is bare.** A bare id has no extension and still gets
the route of its media type. -/
theorem readsAlike_iff (id : String) :
    (ReadsAlike id ↔ ∀ m, ¬IsBareMedia id m) ∧
      ∀ d m, ((Asset.mk id).extension = none ∧ Route.settle (some d.name) ⟨id⟩ = .ok ⟨d, m⟩) ↔
        IsBareMedia id m := by
  refine ⟨⟨?_, ?_⟩, ?_⟩
  · intro halike m hbare
    obtain ⟨hext, hmime⟩ := extension_eq_none_and_mimeOfId_iff.2 hbare
    obtain ⟨ext, hsome, -⟩ := (halike.mime m).1 hmime
    rw [hext] at hsome
    cases hsome
  · intro hbare
    have hnone (hext : (Asset.mk id).extension = none) : mimeOfId id = none := by
      rw [Option.eq_none_iff_forall_ne_some]
      intro m hmime
      exact hbare m (extension_eq_none_and_mimeOfId_iff.1 ⟨hext, hmime⟩)
    refine ⟨fun m => ?_, ?_⟩
    · cases hext : (Asset.mk id).extension with
      | none => simp [hnone hext]
      | some ext => simp [mimeOfId_of_extension hext]
    · intro hext domain d hdomain
      rw [Route.settle_of_ofName hdomain, hnone hext]
  · intro d m
    have hdomain : Domain.ofName ((some d.name).getD "") = .ok d := Domain.ofName_name d
    rw [← extension_eq_none_and_mimeOfId_iff, Route.settle_of_ofName hdomain]
    cases mimeOfId id <;> simp

/-- A hidden file named like an extension is no media by its extension, and is served as media. -/
theorem not_readsAlike_hidden :
    (Asset.mk ".jpg").extension = none ∧ mimeOfId ".jpg" = some "image/jpeg" ∧
      Route.settle (some "image") ⟨".jpg"⟩ = .ok ⟨.image, "image/jpeg"⟩ ∧ ¬ReadsAlike ".jpg" := by
  have hext : (Asset.mk ".jpg").extension = none := by decide
  have hmime : mimeOfId ".jpg" = some "image/jpeg" := by decide
  refine ⟨hext, hmime, by decide, fun halike => ?_⟩
  obtain ⟨ext, hsome, -⟩ := (halike.mime "image/jpeg").1 hmime
  rw [hext] at hsome
  cases hsome

end MediaTransform
