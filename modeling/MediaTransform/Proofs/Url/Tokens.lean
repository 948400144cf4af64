import MediaTransform.Proofs.Url.Shape

/-! # Segments of tokens

Segments written out, the other way round from reading them:

* **`Token`** — a key and the text of its value; `parameterOfToken_text` says that it is read back.
* **`Spec.ofSegment?_texts`** — the spec of a kind and texts with commas between them;
  `ofSegment?_intercalate` has it for the texts of tokens, and `ofSegment?_segment` for tokens alone,
  of which the first is the kind.
* **`Request.OnlySegment`** — the paths that ask for one transformation; `exists_parse` has the chain
  that is read from them. -/

namespace MediaTransform

/-! ## (1) Tokens -/

/-- **A token of a segment**: a key and the text of its value. -/
structure Token where
  key : String
  raw : String
  deriving DecidableEq, Repr

namespace Token

/-- The text of a token. -/
def text (t : Token) : String := t.key ++ "_" ++ t.raw

/-- The parameter that a token gives. -/
def parameter (t : Token) : String × Value := (t.key, coerce t.raw)

/-- **The segment of tokens**: their texts with commas between them. -/
def segment (tokens : List Token) : String := ",".intercalate (tokens.map text)

theorem map_fst_parameter (tokens : List Token) :
    (tokens.map parameter).map (·.1) = tokens.map key := by
  rw [List.map_map]
  rfl

theorem text_ne_empty (t : Token) : t.text ≠ "" := by
  simp [text]

/-- **A token that can be read back**: its key ends at the first underscore, and nothing in it is
taken for the end of the token. -/
structure WellFormed (t : Token) : Prop where
  unbroken : '_' ∉ t.key.toList
  key : ',' ∉ t.key.toList
  raw : ',' ∉ t.raw.toList

instance (t : Token) : Decidable t.WellFormed :=
  decidable_of_iff ('_' ∉ t.key.toList ∧ ',' ∉ t.key.toList ∧ ',' ∉ t.raw.toList)
    ⟨fun ⟨hunbroken, hkey, hraw⟩ => ⟨hunbroken, hkey, hraw⟩, fun h => ⟨h.unbroken, h.key, h.raw⟩⟩

/-- No comma stands in the text of such a token. -/
theorem WellFormed.not_mem_text {t : Token} (h : t.WellFormed) : ',' ∉ t.text.toList := by
  rw [text, String.toList_append, String.toList_append, List.mem_append, List.mem_append, not_or,
    not_or]
  exact ⟨⟨h.key, by decide⟩, h.raw⟩

/-- **Such a token is read as its parameter.** -/
theorem WellFormed.parameterOfToken_text {t : Token} (h : t.WellFormed) :
    parameterOfToken t.text = t.parameter := by
  have hcut : Text.cut? '_' t.text = some (t.key, t.raw) :=
    Text.cut?_eq_some_iff.2 ⟨rfl, h.unbroken⟩
  rw [parameterOfToken, hcut]
  rfl

end Token

/-! ## (2) Segments -/

/-- **The spec of a kind and texts** with commas between them, which are read as tokens. -/
theorem Spec.ofSegment?_texts {kind : String} {texts : List String} (hkind : kind ≠ "")
    (hcomma : ',' ∉ kind.toList) (htexts : ∀ text ∈ texts, ',' ∉ text.toList) :
    Spec.ofSegment? (",".intercalate (kind :: texts))
      = some ⟨kind, Dictionary.ofList (texts.map parameterOfToken)⟩ := by
  refine Spec.ofSegment?_eq_some_iff.2 ⟨hkind, texts, ⟨by simp, fun part hpart => ?_, rfl⟩, rfl⟩
  rcases List.mem_cons.1 hpart with rfl | hpart
  · exact hcomma
  · exact htexts part hpart

/-- **The spec of a kind and tokens** with commas between them. -/
theorem Spec.ofSegment?_intercalate {kind : String} {tokens : List Token} (hkind : kind ≠ "")
    (hcomma : ',' ∉ kind.toList) (htokens : ∀ t ∈ tokens, t.WellFormed) :
    Spec.ofSegment? (",".intercalate (kind :: tokens.map Token.text))
      = some ⟨kind, Dictionary.ofList (tokens.map Token.parameter)⟩ := by
  have htexts : ∀ text ∈ tokens.map Token.text, ',' ∉ text.toList := by
    intro text htext
    obtain ⟨t, ht, rfl⟩ := List.mem_map.1 htext
    exact (htokens t ht).not_mem_text
  have hparameters : (tokens.map Token.text).map parameterOfToken = tokens.map Token.parameter := by
    rw [List.map_map]
    exact List.map_congr_left fun t ht => (htokens t ht).parameterOfToken_text
  rw [Spec.ofSegment?_texts hkind hcomma htexts, hparameters]

/-- **The spec of a segment of tokens**: the text of the first one is the kind, and the others are
the parameters. -/
theorem Spec.ofSegment?_segment {head : Token} {rest : List Token}
    (h : ∀ t ∈ head :: rest, t.WellFormed) :
    Spec.ofSegment? (Token.segment (head :: rest))
      = some ⟨head.text, Dictionary.ofList (rest.map Token.parameter)⟩ := by
  obtain ⟨hhead, hrest⟩ := List.forall_mem_cons.1 h
  exact Spec.ofSegment?_intercalate head.text_ne_empty hhead.not_mem_text hrest

/-! ## (3) Paths with one transformation -/

/-- **A path with one transformation**: of the segments after the delimiter, one alone is read as a
spec. -/
def Request.OnlySegment (raw segment : String) : Prop :=
  ∃ before middle id, Request.Shape raw before middle id ∧
    middle.filter (Spec.IsTransformation ·) = [segment]

/-- **Its chain is the spec of that segment.** -/
theorem Request.OnlySegment.exists_parse {raw segment : String} {s : Spec}
    (h : Request.OnlySegment raw segment) (hs : Spec.ofSegment? segment = some s) :
    ∃ r, Request.parse raw = .ok r ∧ r.chain = [s] := by
  obtain ⟨before, middle, id, hshape, honly⟩ := h
  refine ⟨_, Request.parse_eq_ok_iff.2 ⟨before, middle, id, hshape, rfl⟩, ?_⟩
  have hchain : (Chain.ofSegments middle).map some = [s].map some := by
    rw [Chain.map_some_ofSegments, honly, List.map_singleton, List.map_singleton, hs]
  exact (List.map_inj_right fun _ _ => Option.some.inj).1 hchain

end MediaTransform
