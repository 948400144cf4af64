import MediaTransform.Proofs.Dictionary
import MediaTransform.Proofs.Url.Tokens

/-! # The last token with a key

What of the tokens of a segment counts for its spec:

* **`Token.ofText`** — the key and the raw value of a token, whatever its text.
* **`Token.lastRaw?`** — the raw value of the last token with a key.
* **`Value.Equals`**, **`Spec.Equals`** — values and specs that compare equal, as zeros of both
  signs do.
* **`Spec.lastTokens_count`** — segments of one kind give one spec where the last tokens agree. -/

namespace MediaTransform

/-! ## (1) Tokens -/

namespace Token

/-- **The token of a text**: its key ends at the first underscore, and without one the raw value is
empty. -/
def ofText (text : String) : Token :=
  match Text.cut? '_' text with
  | some (key, raw) => ⟨key, raw⟩
  | none => ⟨text, ""⟩

/-- **The raw value of the last token with a key**, if there is one. -/
def lastRaw? (key : String) (texts : List String) : Option String :=
  ((texts.map ofText).filter (·.key = key)).getLast?.map Token.raw

theorem parameterOfToken_eq_parameter (text : String) :
    parameterOfToken text = (ofText text).parameter := by
  unfold parameterOfToken ofText
  cases Text.cut? '_' text <;> rfl

/-- The last value of a key is that of the last token with it. -/
theorem lastValue?_map_parameterOfToken (key : String) (texts : List String) :
    Dictionary.lastValue? key (texts.map parameterOfToken) = (lastRaw? key texts).map coerce := by
  have hparameters : texts.map parameterOfToken = (texts.map ofText).map parameter := by
    rw [List.map_map]
    exact List.map_congr_left fun text _ => parameterOfToken_eq_parameter text
  rw [Dictionary.lastValue?, hparameters, List.filter_map, List.getLast?_map, Option.map_map,
    lastRaw?, Option.map_map]
  rfl

theorem lastRaw?_append (key : String) (texts texts' : List String) :
    lastRaw? key (texts ++ texts') = (lastRaw? key texts').or (lastRaw? key texts) := by
  rw [lastRaw?, List.map_append, List.filter_append, List.getLast?_append, Option.map_or]
  rfl

theorem lastRaw?_cons (key text : String) (texts : List String) :
    lastRaw? key (text :: texts) = (lastRaw? key texts).or (lastRaw? key [text]) :=
  lastRaw?_append key [text] texts

theorem lastRaw?_eq_none_iff {key : String} {texts : List String} :
    lastRaw? key texts = none ↔ ∀ text ∈ texts, (ofText text).key ≠ key := by
  simp [lastRaw?]

/-- A token has no value for another key. -/
theorem lastRaw?_singleton_of_ne {key text : String} (h : (ofText text).key ≠ key) :
    lastRaw? key [text] = none :=
  lastRaw?_eq_none_iff.2 (List.forall_mem_singleton.2 h)

end Token

/-! ## (2) Comparison -/

/-- **Values compare equal**: two numbers as numbers do, so that zeros of both signs are equal, and
two texts where they are the same. -/
def Value.Equals : Value → Value → Prop
  | .number x, .number y => x.cmp y = some .eq
  | .text s, .text t => s = t
  | _, _ => False

example : Value.Equals (.number (.zero true)) (.number (.zero false)) := rfl

namespace Spec

/-- **Specs compare equal**: they have one kind, and parameters with the same keys whose values
compare equal. -/
def Equals (s t : Spec) : Prop := s.kind = t.kind ∧ s.params.Alike Value.Equals t.params

/-! ## (3) Segments -/

/-- The segment of a kind and the texts of tokens. -/
def segmentOf (kind : String) (texts : List String) : String := ",".intercalate (kind :: texts)

/-- Texts that can stand between commas. -/
def NoComma (texts : List String) : Prop := ∀ text ∈ texts, ',' ∉ text.toList

instance (texts : List String) : Decidable (NoComma texts) :=
  inferInstanceAs (Decidable (∀ text ∈ texts, ',' ∉ text.toList))

section Segments

variable {kind : String} {texts texts' : List String} {s t : Spec}

/-- **A spec holds the last values of tokens**: these are its parameters, in the order of their keys,
in which there is neither an underscore nor a comma. -/
structure HoldsLast (kind : String) (texts : List String) (s : Spec) : Prop where
  kind : s.kind = kind
  last : ∀ key, s.params.get? key = (Token.lastRaw? key texts).map coerce
  ordered : s.params.keys.Pairwise (· < ·)
  keys : ∀ key ∈ s.params.keys, '_' ∉ key.toList ∧ ',' ∉ key.toList

variable (hkind : kind ≠ "") (hcomma : ',' ∉ kind.toList)
include hkind hcomma

/-- **The spec of a segment** has the last values of the keys as its parameters. -/
theorem exists_ofSegment?_segmentOf (htexts : NoComma texts) :
    ∃ s, ofSegment? (segmentOf kind texts) = some s ∧ HoldsLast kind texts s := by
  refine ⟨_, ofSegment?_texts hkind hcomma htexts, rfl, fun key => ?_, ?_, fun key hkey => ?_⟩
  · rw [Dictionary.get?_ofList, Token.lastValue?_map_parameterOfToken]
  · exact List.pairwise_map.2 (Dictionary.increasing _)
  · obtain ⟨e, he, rfl⟩ := List.mem_map.1 hkey
    obtain ⟨text, htext, rfl⟩ := List.mem_map.1 (Dictionary.mem_of_mem_ofList he)
    obtain ⟨key, raw, hparameter, hunderscore, hchars⟩ := parameterOfToken_eq text
    rw [hparameter]
    exact ⟨hunderscore, fun hmem => htexts text htext (hchars _ (.inl hmem))⟩

omit hkind hcomma in
/-- **Two specs of one kind are equal** where the last values are, key by key. -/
theorem HoldsLast.eq_iff (hs : HoldsLast kind texts s) (ht : HoldsLast kind texts' t) :
    s = t ↔ ∀ key, (Token.lastRaw? key texts).map coerce = (Token.lastRaw? key texts').map coerce := by
  simp only [← hs.last, ← ht.last]
  constructor
  · rintro rfl key
    rfl
  · intro h
    cases s
    cases t
    rw [mk.injEq]
    exact ⟨hs.kind.trans ht.kind.symm, Dictionary.ext_get? h⟩

omit hkind hcomma in
/-- **Two specs of one kind compare equal** where the last values do, key by key. -/
theorem HoldsLast.equals_iff (hs : HoldsLast kind texts s) (ht : HoldsLast kind texts' t) :
    s.Equals t ↔ ∀ key, Option.Rel Value.Equals ((Token.lastRaw? key texts).map coerce)
      ((Token.lastRaw? key texts').map coerce) := by
  simp only [← hs.last, ← ht.last, Equals, Dictionary.alike_iff]
  exact and_iff_right (hs.kind.trans ht.kind.symm)

/-- Segments with the same last tokens give the same spec. -/
theorem ofSegment?_congr (htexts : NoComma texts) (htexts' : NoComma texts')
    (h : ∀ key, Token.lastRaw? key texts = Token.lastRaw? key texts') :
    ofSegment? (segmentOf kind texts) = ofSegment? (segmentOf kind texts') := by
  obtain ⟨s, hs, hlast⟩ := exists_ofSegment?_segmentOf hkind hcomma htexts
  obtain ⟨t, ht, hlast'⟩ := exists_ofSegment?_segmentOf hkind hcomma htexts'
  rw [hs, ht, (hlast.eq_iff hlast').2 fun key => by rw [h key]]

/-- **The order of tokens with distinct keys does not matter.** -/
theorem ofSegment?_perm (htexts : NoComma texts) (hperm : texts.Perm texts')
    (hdistinct : (texts.map (Token.ofText · |>.key)).Nodup) :
    ofSegment? (segmentOf kind texts) = ofSegment? (segmentOf kind texts') := by
  have htexts' : NoComma texts' := fun text htext => htexts text (hperm.mem_iff.2 htext)
  have hkeys : ((texts.map parameterOfToken).map (·.1)).Nodup := by
    have hmap : (texts.map parameterOfToken).map (·.1) = texts.map (Token.ofText · |>.key) := by
      rw [List.map_map]
      exact List.map_congr_left fun text _ => by
        rw [Function.comp_apply, Token.parameterOfToken_eq_parameter]
        rfl
    rwa [hmap]
  rw [segmentOf, segmentOf, ofSegment?_texts hkind hcomma htexts,
    ofSegment?_texts hkind hcomma htexts', Dictionary.ofList_perm (hperm.map _) hkeys]

/-- **A token may be repeated** before another one with its key comes. -/
theorem ofSegment?_repeated {before between after : List String} {text : String}
    (htexts : NoComma (before ++ text :: between ++ text :: after))
    (hbetween : ∀ other ∈ between, (Token.ofText other).key ≠ (Token.ofText text).key) :
    ofSegment? (segmentOf kind (before ++ text :: between ++ text :: after))
      = ofSegment? (segmentOf kind (before ++ text :: between ++ after)) := by
  have hfewer : NoComma (before ++ text :: between ++ after) := fun other hother =>
    htexts other (by
      simp only [List.mem_append, List.mem_cons] at hother ⊢
      tauto)
  refine ofSegment?_congr hkind hcomma htexts hfewer fun key => ?_
  have hfirst : Token.lastRaw? key (before ++ text :: between)
      = ((Token.lastRaw? key between).or (Token.lastRaw? key [text])).or
        (Token.lastRaw? key before) := by
    rw [Token.lastRaw?_append, Token.lastRaw?_cons]
  rw [Token.lastRaw?_append key (before ++ text :: between) (text :: after),
    Token.lastRaw?_append key (before ++ text :: between) after, Token.lastRaw?_cons, hfirst]
  by_cases hkey : (Token.ofText text).key = key
  · have hnone : Token.lastRaw? key between = none :=
      Token.lastRaw?_eq_none_iff.2 (hkey ▸ hbetween)
    rw [hnone]
    cases Token.lastRaw? key after <;> cases Token.lastRaw? key [text] <;> rfl
  · rw [Token.lastRaw?_singleton_of_ne hkey, Option.or_none]

/-- **A token may come before another one with its key.** -/
theorem ofSegment?_overridden {before after : List String} {text other : String}
    (htexts : NoComma (before ++ text :: after)) (hother : other ∈ after)
    (hkeys : (Token.ofText other).key = (Token.ofText text).key) :
    ofSegment? (segmentOf kind (before ++ text :: after))
      = ofSegment? (segmentOf kind (before ++ after)) := by
  have hfewer : NoComma (before ++ after) := fun other hother =>
    htexts other (by
      simp only [List.mem_append, List.mem_cons] at hother ⊢
      tauto)
  refine ofSegment?_congr hkind hcomma htexts hfewer fun key => ?_
  rw [Token.lastRaw?_append, Token.lastRaw?_append, Token.lastRaw?_cons key text after]
  by_cases hkey : (Token.ofText text).key = key
  · -- the other token gives the key a value
    cases hlast : Token.lastRaw? key after with
    | none => exact absurd (hkeys.trans hkey) (Token.lastRaw?_eq_none_iff.1 hlast other hother)
    | some raw => rfl
  · rw [Token.lastRaw?_singleton_of_ne hkey, Option.or_none]

end Segments

/-- **Of the tokens of a segment, the last ones count.** Two segments of one kind are read as specs,
and these are equal just where for every key the last tokens with it are both missing or have values
that are read alike; and they compare equal just where these values do. A spec holds the last values,
in increasing order of keys without underscores and commas. So tokens with distinct keys may come in
any order, a token may be repeated, and one that is overridden may be put in. -/
theorem lastTokens_count (kind : String) (hkind : kind ≠ "") (hcomma : ',' ∉ kind.toList) :
    (∀ texts texts', NoComma texts → NoComma texts' → ∃ s t,
      ofSegment? (segmentOf kind texts) = some s ∧ ofSegment? (segmentOf kind texts') = some t ∧
      (s = t ↔ ∀ key,
        (Token.lastRaw? key texts).map coerce = (Token.lastRaw? key texts').map coerce) ∧
      (s.Equals t ↔ ∀ key, Option.Rel Value.Equals ((Token.lastRaw? key texts).map coerce)
        ((Token.lastRaw? key texts').map coerce)) ∧
      HoldsLast kind texts s ∧ HoldsLast kind texts' t) ∧
    (∀ texts texts', NoComma texts → texts.Perm texts' →
      (texts.map (Token.ofText · |>.key)).Nodup →
      ofSegment? (segmentOf kind texts) = ofSegment? (segmentOf kind texts')) ∧
    (∀ before text between after, NoComma (before ++ text :: between ++ text :: after) →
      (∀ other ∈ between, (Token.ofText other).key ≠ (Token.ofText text).key) →
      ofSegment? (segmentOf kind (before ++ text :: between ++ text :: after))
        = ofSegment? (segmentOf kind (before ++ text :: between ++ after))) ∧
    ∀ before text after, NoComma (before ++ text :: after) →
      (∃ other ∈ after, (Token.ofText other).key = (Token.ofText text).key) →
      ofSegment? (segmentOf kind (before ++ text :: after))
        = ofSegment? (segmentOf kind (before ++ after)) := by
  refine ⟨fun texts texts' htexts htexts' => ?_,
    fun texts texts' htexts hperm hdistinct =>
      ofSegment?_perm hkind hcomma htexts hperm hdistinct,
    fun before text between after htexts hbetween =>
      ofSegment?_repeated hkind hcomma htexts hbetween,
    fun before text after htexts ⟨other, hother, hkeys⟩ =>
      ofSegment?_overridden hkind hcomma htexts hother hkeys⟩
  obtain ⟨s, hs, hlast⟩ := exists_ofSegment?_segmentOf hkind hcomma htexts
  obtain ⟨t, ht, hlast'⟩ := exists_ofSegment?_segmentOf hkind hcomma htexts'
  exact ⟨s, t, hs, ht, hlast.eq_iff hlast', hlast.equals_iff hlast', hlast, hlast'⟩

/-- A zero of either sign compares equal and is not the same; a flag is a key with an empty value,
and a number that is overridden does not count. -/
theorem lastTokens_count_sample :
    (∃ s t, ofSegment? (segmentOf "c_crop" ["x_1", "flag", "x_-0"]) = some s ∧
      ofSegment? (segmentOf "c_crop" ["x_0", "flag_"]) = some t ∧ s ≠ t ∧ s.Equals t) ∧
    ofSegment? (segmentOf "c_crop" ["x_1", "flag", "x_-0"])
      = ofSegment? (segmentOf "c_crop" ["flag", "x_-0"]) ∧
    ofSegment? (segmentOf "c_crop" ["flag", "x_-0"])
      = ofSegment? (segmentOf "c_crop" ["x_-0", "flag"]) ∧
    ofSegment? (segmentOf "c_crop" ["x_-0", "flag", "x_-0"])
      = ofSegment? (segmentOf "c_crop" ["x_-0", "flag"]) := by
  obtain ⟨hboth, hperm, hrepeated, hoverridden⟩ :=
    lastTokens_count "c_crop" (by decide) (by decide)
  refine ⟨?_,
    hoverridden [] "x_1" ["flag", "x_-0"] (by decide) ⟨"x_-0", by decide, by decide +kernel⟩,
    hperm _ _ (by decide) (List.Perm.swap ..) (by decide +kernel),
    hrepeated [] "x_-0" ["flag"] [] (by decide) (by decide +kernel)⟩
  obtain ⟨s, t, hs, ht, heq, hequals, -⟩ :=
    hboth ["x_1", "flag", "x_-0"] ["x_0", "flag_"] (by decide) (by decide)
  refine ⟨s, t, hs, ht, fun hsame => absurd (heq.1 hsame "x") (by decide +kernel),
    hequals.2 fun key => ?_⟩
  by_cases hx : key = "x"
  · have hminus : (Token.lastRaw? "x" ["x_1", "flag", "x_-0"]).map coerce
        = some (.number (.zero true)) := by decide +kernel
    have hplus : (Token.lastRaw? "x" ["x_0", "flag_"]).map coerce
        = some (.number (.zero false)) := by decide +kernel
    rw [hx, hminus, hplus]
    exact .some rfl
  · by_cases hflag : key = "flag"
    · have hempty : (Token.lastRaw? "flag" ["x_1", "flag", "x_-0"]).map coerce
          = some (.text "") := by decide +kernel
      have hempty' : (Token.lastRaw? "flag" ["x_0", "flag_"]).map coerce
          = some (.text "") := by decide +kernel
      rw [hflag, hempty, hempty']
      exact .some rfl
    · have hkeys : ∀ text ∈ ["x_1", "flag", "x_-0", "x_0", "flag_"],
          (Token.ofText text).key = "x" ∨ (Token.ofText text).key = "flag" := by decide +kernel
      have hnone {texts : List String} (h : texts ⊆ ["x_1", "flag", "x_-0", "x_0", "flag_"]) :
          Token.lastRaw? key texts = none :=
        Token.lastRaw?_eq_none_iff.2 fun text htext heq =>
          (hkeys text (h htext)).elim (fun hk => hx (heq.symm.trans hk))
            fun hk => hflag (heq.symm.trans hk)
      rw [hnone (by decide), hnone (by decide)]
      exact .none

end Spec

end MediaTransform
