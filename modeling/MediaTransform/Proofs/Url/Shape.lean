import MediaTransform.Proofs.Text.Cut
import MediaTransform.Url.Path

/-! # The shape of transformation paths

Which texts name a request, and which request that is, said without the reader:

* **`Request.IsPathOf`** — the path of a raw text, which ends before the first question mark.
* **`Request.Shape`** — the segments of the path: some without the delimiter, the delimiter, more
  segments, and an id.
* **`Spec.IsTransformation`** — the segments that are read as specs.
* **`Request.parse_iff_shape`** — a text is read exactly where it has a shape, and its shape says
  what is read. -/

namespace MediaTransform

/-! ## (1) Paths -/

/-- **The path of a raw text**: what stands before its first question mark, or all of it. -/
def Request.IsPathOf (raw path : String) : Prop :=
  '?' ∉ path.toList ∧ (raw = path ∨ ∃ query, raw = path ++ "?" ++ query)

/-- Every raw text has exactly one path, and `withoutQuery` finds it. -/
theorem Request.isPathOf_iff {raw path : String} :
    Request.IsPathOf raw path ↔ withoutQuery raw = path := by
  have hmark : String.singleton '?' = "?" := rfl
  unfold Request.IsPathOf withoutQuery
  cases hc : Text.cut? '?' raw with
  | none =>
    -- no question mark: the path is all of the text
    have hnone := Text.cut?_eq_none_iff.1 hc
    constructor
    · rintro ⟨-, rfl | ⟨query, rfl⟩⟩
      · rfl
      · exact absurd (by simp) hnone
    · rintro rfl
      exact ⟨hnone, .inl rfl⟩
  | some p =>
    obtain ⟨before, after⟩ := p
    obtain ⟨hraw, hb⟩ := Text.cut?_eq_some_iff.1 hc
    rw [hmark] at hraw
    constructor
    · rintro ⟨hp, rfl | ⟨query, hother⟩⟩
      · exact absurd (hraw ▸ by simp) hp
      · -- a second way to write the text: both cut it at the first mark
        rw [Text.cut?_eq_some_iff.2 ⟨hother, hp⟩, Option.some.injEq, Prod.mk.injEq] at hc
        exact hc.1.symm
    · rintro rfl
      exact ⟨hb, .inr ⟨after, hraw⟩⟩

/-- **What follows a question mark is no part of the path**, also where one comes before it. -/
theorem withoutQuery_append_query (path query : String) :
    withoutQuery (path ++ "?" ++ query) = withoutQuery path := by
  rw [← Request.isPathOf_iff]
  obtain ⟨hp, rest⟩ := Request.isPathOf_iff.2 (rfl : withoutQuery path = withoutQuery path)
  refine ⟨hp, .inr ?_⟩
  rcases rest with he | ⟨more, he⟩
  · exact ⟨query, by rw [← he]⟩
  · refine ⟨more ++ "?" ++ query, ?_⟩
    have happ := congrArg (· ++ "?" ++ query) he
    simpa only [String.append_assoc] using happ

/-! ## (2) The delimiter -/

/-- **The segments are cut at the first delimiter.** -/
theorem splitAtDelimiter_eq_some_iff {segments before after : List String} :
    splitAtDelimiter segments = some (before, after) ↔
      segments = before ++ delimiter :: after ∧ delimiter ∉ before := by
  induction segments generalizing before with
  | nil => simp [splitAtDelimiter]
  | cons s rest ih =>
    rw [splitAtDelimiter]
    by_cases hs : s = delimiter
    · -- the cut is here, so nothing may stand before it
      rw [if_pos hs, Option.some.injEq, Prod.mk.injEq]
      cases before with
      | nil => simp [hs]
      | cons b bs =>
        constructor
        · rintro ⟨h, -⟩
          cases h
        · rintro ⟨he, hb⟩
          rw [List.cons_append, List.cons.injEq] at he
          exact absurd (List.mem_cons.2 (.inl (hs.symm.trans he.1))) hb
    · -- the cut comes later, and this segment stands before it
      rw [if_neg hs]
      cases before with
      | nil =>
        rw [List.nil_append, List.cons.injEq]
        constructor
        · intro h
          split at h <;> simp at h
        · rintro ⟨⟨h, -⟩, -⟩
          exact absurd h hs
      | cons b bs =>
        have hrest := @ih bs
        constructor
        · intro h
          split at h
          · rename_i x y he
            rw [Option.some.injEq, Prod.mk.injEq, List.cons.injEq] at h
            obtain ⟨⟨rfl, rfl⟩, rfl⟩ := h
            obtain ⟨rfl, hx⟩ := hrest.1 he
            exact ⟨rfl, by simp [hx, Ne.symm hs]⟩
          · cases h
        · rintro ⟨he, hb⟩
          rw [List.cons_append, List.cons.injEq] at he
          obtain ⟨rfl, he⟩ := he
          rw [List.mem_cons, not_or] at hb
          rw [hrest.2 ⟨he, hb.2⟩]

/-! ## (3) Shapes -/

/-- **The shape of a raw text that names a request**: its path consists of segments without the
delimiter, the delimiter, any segments, and a non-empty id. -/
structure Request.Shape (raw : String) (before middle : List String) (id : String) : Prop where
  segments : ∃ path, Request.IsPathOf raw path ∧
    Text.IsCut '/' path (before ++ ["upload"] ++ middle ++ [id])
  first : "upload" ∉ before
  named : id ≠ ""

/-- The shape in terms of the segments that the reader looks at. -/
theorem Request.shape_iff {raw : String} {before middle : List String} {id : String} :
    Request.Shape raw before middle id ↔
      splitAtDelimiter (Text.fields '/' (withoutQuery raw)) = some (before, middle ++ [id]) ∧
        id ≠ "" := by
  have hsegments : (∃ path, Request.IsPathOf raw path ∧
      Text.IsCut '/' path (before ++ ["upload"] ++ middle ++ [id])) ↔
      Text.fields '/' (withoutQuery raw) = before ++ delimiter :: (middle ++ [id]) := by
    have happ : before ++ ["upload"] ++ middle ++ [id] = before ++ delimiter :: (middle ++ [id]) := by
      simp [delimiter]
    rw [happ]
    constructor
    · rintro ⟨path, hp, hcut⟩
      rw [Request.isPathOf_iff.1 hp]
      exact Text.isCut_iff.1 hcut
    · intro h
      exact ⟨_, Request.isPathOf_iff.2 rfl, Text.isCut_iff.2 h⟩
  rw [splitAtDelimiter_eq_some_iff, ← hsegments]
  constructor
  · rintro ⟨hs, hf, hn⟩
    exact ⟨⟨hs, hf⟩, hn⟩
  · rintro ⟨⟨hs, hf⟩, hn⟩
    exact ⟨hs, hf, hn⟩

/-- The request of a shape. -/
def Request.ofShape (before middle : List String) (id : String) : Request where
  domain := before.getLast?.filter (· ≠ "")
  asset := ⟨id⟩
  chain := Chain.ofSegments middle

/-- **The reader succeeds exactly on the texts with a shape**, and reads what the shape says. -/
theorem Request.parse_eq_ok_iff {raw : String} {r : Request} :
    Request.parse raw = .ok r ↔
      ∃ before middle id, Request.Shape raw before middle id ∧ r = .ofShape before middle id := by
  simp only [Request.shape_iff]
  unfold Request.parse
  cases hs : splitAtDelimiter (Text.fields '/' (withoutQuery raw)) with
  | none => simp
  | some p =>
    obtain ⟨before, after⟩ := p
    rcases List.eq_nil_or_concat after with rfl | ⟨middle, id, rfl⟩
    · -- the delimiter comes last: there is no segment for an id
      simp
    · simp only [List.concat_eq_append, List.getLast?_concat, List.dropLast_concat]
      constructor
      · intro h
        split at h
        · cases h
        · rename_i hid
          rw [Except.ok.injEq] at h
          exact ⟨before, middle, id, ⟨rfl, hid⟩, h.symm⟩
      · rintro ⟨before', middle', id', ⟨he, hid⟩, rfl⟩
        rw [Option.some.injEq, Prod.mk.injEq] at he
        obtain ⟨rfl, he⟩ := he
        obtain ⟨rfl, rfl⟩ := List.concat_inj.1 (by simpa using he)
        rw [if_neg hid]
        rfl

/-- A shape of a text is its only one. -/
theorem Request.Shape.unique {raw : String} {before middle before' middle' : List String}
    {id id' : String} (h : Request.Shape raw before middle id)
    (h' : Request.Shape raw before' middle' id') : before = before' ∧ middle = middle' ∧ id = id' := by
  have hcut := (Request.shape_iff.1 h).1.symm.trans (Request.shape_iff.1 h').1
  rw [Option.some.injEq, Prod.mk.injEq] at hcut
  have hlast := List.concat_inj.1 (show middle.concat id = middle'.concat id' by simpa using hcut.2)
  exact ⟨hcut.1, hlast.1, hlast.2⟩

/-- A text that is not read fails as a malformed one. -/
theorem Request.parse_ok_or_malformed (raw : String) :
    (∃ r, Request.parse raw = .ok r) ∨
      ∃ reason, Request.parse raw = .error (.malformedUrl reason) := by
  unfold Request.parse
  split
  · exact .inr ⟨_, rfl⟩
  · split
    · exact .inr ⟨_, rfl⟩
    · split
      · exact .inr ⟨_, rfl⟩
      · exact .inl ⟨_, rfl⟩

/-! ## (4) Segments that are read as specs -/

/-- **The segments that are read as transformations**: those with an underscore that do not begin
with a comma. -/
def Spec.IsTransformation (segment : String) : Prop :=
  '_' ∈ segment.toList ∧ segment.toList.head? ≠ some ','

instance (segment : String) : Decidable (Spec.IsTransformation segment) :=
  inferInstanceAs (Decidable (_ ∧ _))

theorem hasUnderscore_iff {segment : String} :
    hasUnderscore segment = true ↔ '_' ∈ segment.toList := by
  simp [hasUnderscore]

/-- The first field of a text is empty where the text is or begins with the separator. -/
theorem Text.fields_eq_empty_cons_iff {sep : Char} {s : String} :
    (∃ rest, Text.fields sep s = "" :: rest) ↔ s = "" ∨ s.toList.head? = some sep := by
  have hempty : s = "" ↔ s.toList = [] := by simp
  rw [hempty, Text.fields]
  cases hcs : s.toList with
  | nil => simp
  | cons c cs =>
    rw [Text.splitAll]
    by_cases hc : c = sep
    · simp [hc]
    · rw [if_neg hc]
      cases hs : Text.splitAll sep cs with
      | nil => exact absurd hs (Text.splitAll_ne_nil sep cs)
      | cons part parts => simp [hc]

/-- **The spec of a segment**: its kind is what stands before the first comma, and its parameters are
those of the tokens between the other commas, of which the last with a key counts. -/
theorem Spec.ofSegment?_eq_some_iff {segment : String} {s : Spec} :
    ofSegment? segment = some s ↔
      s.kind ≠ "" ∧ ∃ tokens, Text.IsCut ',' segment (s.kind :: tokens) ∧
        s.params = Dictionary.ofList (tokens.map parameterOfToken) := by
  simp only [Text.isCut_iff]
  rw [ofSegment?]
  cases hf : Text.fields ',' segment with
  | nil => exact absurd hf (Text.isCut_fields ',' segment).1
  | cons kind tokens =>
    dsimp only
    constructor
    · intro h
      split at h
      · cases h
      · rename_i hkind
        cases h
        exact ⟨hkind, tokens, rfl, rfl⟩
    · rintro ⟨hkind, tokens', he, hparams⟩
      rw [List.cons.injEq] at he
      obtain ⟨rfl, rfl⟩ := he
      rw [if_neg hkind, ← hparams]

/-- **The parameter of a token**: the key ends at the first underscore, and what follows is read as
the value; without an underscore the value is empty. -/
theorem parameterOfToken_eq (token : String) :
    ∃ key raw, parameterOfToken token = (key, coerce raw) ∧ '_' ∉ key.toList ∧
      ∀ c, c ∈ key.toList ∨ c ∈ raw.toList → c ∈ token.toList := by
  unfold parameterOfToken
  cases hc : Text.cut? '_' token with
  | none =>
    refine ⟨token, "", rfl, Text.cut?_eq_none_iff.1 hc, fun c hmem => ?_⟩
    rcases hmem with hkey | hraw
    · exact hkey
    · cases hraw
  | some p =>
    obtain ⟨key, raw⟩ := p
    obtain ⟨rfl, hkey⟩ := Text.cut?_eq_some_iff.1 hc
    refine ⟨key, raw, rfl, hkey, fun c hmem => ?_⟩
    rw [String.toList_append, String.toList_append, List.mem_append, List.mem_append]
    exact hmem.imp_left .inl

/-- **A segment is read as a spec exactly where it is read as a transformation.** -/
theorem Spec.ofSegment?_isSome_iff {segment : String} (h : '_' ∈ segment.toList) :
    (Spec.ofSegment? segment).isSome = true ↔ Spec.IsTransformation segment := by
  have hne : segment ≠ "" := by
    rintro rfl
    cases h
  have hkind := @Text.fields_eq_empty_cons_iff ',' segment
  rw [Spec.ofSegment?, Spec.IsTransformation]
  cases hf : Text.fields ',' segment with
  | nil => exact absurd hf (Text.isCut_fields ',' segment).1
  | cons kind tokens =>
    rw [hf] at hkind
    -- a segment is no transformation for its comma exactly where its kind is empty, since a segment
    -- with an underscore is not empty itself
    by_cases hk : kind = ""
    · have hcomma : segment.toList.head? = some ',' := by
        rcases hkind.1 ⟨tokens, by rw [hk]⟩ with he | hc
        · exact absurd he hne
        · exact hc
      simp [hk, hcomma]
    · have hcomma : segment.toList.head? ≠ some ',' := by
        intro hc
        obtain ⟨rest, he⟩ := hkind.2 (.inr hc)
        rw [List.cons.injEq] at he
        exact hk he.1
      simp [hk, hcomma, h]

/-- **The chain has one spec for each segment that is read as a transformation**, in their order. -/
theorem Chain.map_some_ofSegments (segments : List String) :
    (Chain.ofSegments segments).map some
      = (segments.filter (Spec.IsTransformation ·)).map Spec.ofSegment? := by
  induction segments with
  | nil => rfl
  | cons s rest ih =>
    have hunder := @hasUnderscore_iff s
    rw [Chain.ofSegments, List.filterMap_cons]
    by_cases hu : '_' ∈ s.toList
    · -- the reader looks at the segment, and keeps it unless it begins with a comma
      have hspec := Spec.ofSegment?_isSome_iff hu
      rw [if_pos (hunder.2 hu)]
      cases ho : Spec.ofSegment? s with
      | none =>
        have hno : ¬Spec.IsTransformation s := by simpa [ho] using hspec
        rw [List.filter_cons_of_neg (by simpa using hno)]
        exact ih
      | some spec =>
        have hyes : Spec.IsTransformation s := by simpa [ho] using hspec
        rw [List.filter_cons_of_pos (by simpa using hyes), List.map_cons, List.map_cons, ho, ← ih]
        rfl
    · -- the reader passes over the segment
      have hno : ¬Spec.IsTransformation s := fun h => hu h.1
      rw [if_neg (by simpa [hunder] using hu), List.filter_cons_of_neg (by simpa using hno)]
      exact ih

/-! ## (5) What is read -/

/-- **Which texts name a request, and which request.** A text is read exactly where its path, cut
at every slash, is a row of segments without the delimiter, the delimiter, any segments and a
non-empty id, and the domain, the id and the chain are those of this row; every other text fails
as malformed; and what follows a question mark changes nothing. -/
theorem Request.parse_iff_shape (raw : String) :
    (∀ r, Request.parse raw = .ok r ↔
      ∃ before middle id, Request.Shape raw before middle id ∧
        r.asset.publicId = id ∧
        (∀ d, r.domain = some d ↔ before.getLast? = some d ∧ d ≠ "") ∧
        r.chain.map some = (middle.filter (Spec.IsTransformation ·)).map Spec.ofSegment?) ∧
    ((¬∃ before middle id, Request.Shape raw before middle id) ↔
      ∃ reason, Request.parse raw = .error (.malformedUrl reason)) ∧
    ∀ query, (Request.parse (raw ++ "?" ++ query)).toOption = (Request.parse raw).toOption := by
  have hdomain : ∀ (before : List String) (d : String),
      before.getLast?.filter (· ≠ "") = some d ↔ before.getLast? = some d ∧ d ≠ "" := by
    intro before d
    rw [Option.filter_eq_some_iff]
    simp
  refine ⟨fun r => ?_, ?_, fun query => ?_⟩
  · rw [Request.parse_eq_ok_iff]
    refine exists_congr fun before => exists_congr fun middle => exists_congr fun id =>
      and_congr_right fun _ => ?_
    constructor
    · rintro rfl
      exact ⟨rfl, hdomain before, Chain.map_some_ofSegments middle⟩
    · rintro ⟨hid, hd, hchain⟩
      -- the three facts fix all three fields of the request
      obtain ⟨domain, ⟨publicId⟩, chain⟩ := r
      have hd' : domain = before.getLast?.filter (· ≠ "") :=
        Option.ext fun d => (hd d).trans (hdomain before d).symm
      have hchain' : chain = Chain.ofSegments middle := by
        rw [← Chain.map_some_ofSegments] at hchain
        exact (List.map_inj_right fun _ _ h => Option.some.inj h).1 hchain
      rw [hd', hchain', ← hid]
      rfl
  · rcases Request.parse_ok_or_malformed raw with ⟨r, hr⟩ | ⟨reason, he⟩
    · obtain ⟨before, middle, id, hshape, -⟩ := Request.parse_eq_ok_iff.1 hr
      rw [hr]
      exact iff_of_false (fun h => h ⟨before, middle, id, hshape⟩) (by simp)
    · refine iff_of_true ?_ ⟨reason, he⟩
      rintro ⟨before, middle, id, hshape⟩
      have hr := Request.parse_eq_ok_iff.2 ⟨before, middle, id, hshape, rfl⟩
      rw [he] at hr
      cases hr
  · -- both texts have the same path, so they have the same shapes
    have hsame : ∀ r, Request.parse (raw ++ "?" ++ query) = .ok r ↔ Request.parse raw = .ok r := by
      intro r
      simp only [Request.parse_eq_ok_iff, Request.shape_iff, withoutQuery_append_query]
    cases hraw : Request.parse raw with
    | ok r => rw [(hsame r).2 hraw]
    | error e =>
      cases hq : Request.parse (raw ++ "?" ++ query) with
      | ok r => cases hraw.symm.trans ((hsame r).1 hq)
      | error e' => rfl

end MediaTransform
