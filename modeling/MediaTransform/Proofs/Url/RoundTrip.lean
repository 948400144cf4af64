import MediaTransform.Proofs.Number.PlainText
import MediaTransform.Proofs.Url.Shape

/-! # Paths written and read back

* **`Request.canonicalPath`** — the path that spells a request.
* **`Request.Writable`** — the requests whose names and values leave the separators alone;
  `Request.writable_of_parse` says that reading gives no others, as long as numbers are finite.
* **`Request.canonicalPath_roundTrip`** — a writable request is read back from its path, level by
  level: values, parameter tokens, segments, chains. -/

namespace MediaTransform

/-! ## (1) What can be written -/

/-- None of these characters stands in the text. -/
def Text.FreeOf (marks : List Char) (s : String) : Prop := ∀ c ∈ marks, c ∉ s.toList

instance (marks : List Char) (s : String) : Decidable (Text.FreeOf marks s) :=
  decidable_of_iff (marks.all (!s.toList.contains ·) = true) (by simp [Text.FreeOf])

/-- **The values that are written so that they read back**: finite numbers, and texts that hold no
separator and are not decimal. -/
def Value.Writable : Value → Prop
  | .number x => x.isFinite = true
  | .text t => Text.FreeOf ['/', ',', '?'] t ∧ ¬DecimalText.IsDecimal t.toList

instance (v : Value) : Decidable v.Writable :=
  match v with
  | .number x => inferInstanceAs (Decidable (x.isFinite = true))
  | .text _ => inferInstanceAs (Decidable (_ ∧ ¬_))

/-- **The specs that can be written.** A spec that leaves no underscore in its segment would be
passed over, so it has a parameter or an underscore in its kind. -/
structure Spec.Writable (s : Spec) : Prop where
  named : s.kind ≠ ""
  kind : Text.FreeOf ['/', ',', '?'] s.kind
  keys : ∀ e ∈ s.params.entries, Text.FreeOf ['/', ',', '?', '_'] e.1
  values : ∀ e ∈ s.params.entries, e.2.Writable
  marked : s.params.entries ≠ [] ∨ '_' ∈ s.kind.toList

/-- **The requests that can be written.** -/
structure Request.Writable (r : Request) : Prop where
  named : r.asset.publicId ≠ ""
  id : Text.FreeOf ['/', '?'] r.asset.publicId
  domain : ∀ d ∈ r.domain, d ≠ "" ∧ d ≠ "upload" ∧ Text.FreeOf ['/', '?'] d
  chain : ∀ s ∈ r.chain, s.Writable

/-- **The path that spells a request**: the domain if there is one, the delimiter, each spec, and
the id. -/
def Request.canonicalPath (r : Request) : String :=
  "/" ++ r.domain.elim "" (· ++ "/") ++ "upload/" ++
    String.join (r.chain.map (·.display ++ "/")) ++ r.asset.publicId

/-! ## (2) Values and tokens -/

/-- A writable value is read back from its text. -/
theorem Value.Writable.coerce_display {v : Value} (h : v.Writable) : coerce v.display = v := by
  cases v with
  | number x => exact coerce_text h
  | text t => exact coerce_eq_text_iff.2 ⟨rfl, h.2⟩

/-- The text of a writable value holds no separator. -/
theorem Value.Writable.freeOf_display {v : Value} (h : v.Writable) :
    Text.FreeOf ['/', ',', '?'] v.display := by
  cases v with
  | number x =>
    -- no need to know which text it is: it reads back as a number, so it is in the grammar
    have hdecimal : DecimalText.IsDecimal x.text.toList := isDecimal_of_coerce (coerce_text h)
    have hmarks : ∀ c ∈ ['/', ',', '?'], c.isDigit = false ∧ c ≠ '-' ∧ c ≠ '+' ∧ c ≠ '.' := by
      simp only [List.forall_mem_cons]
      simp
    exact fun c hc => hdecimal.not_mem (hmarks c hc)
  | text t => exact h.1

/-- A character of a token is one of its key, of its value, or the underscore. -/
theorem Spec.mem_displayParam {key : String} {v : Value} {c : Char}
    (hc : c ∈ (displayParam key v).toList) :
    c ∈ key.toList ∨ c = '_' ∨ c ∈ v.display.toList := by
  simpa [displayParam, or_assoc] using hc

/-- **A written parameter is read back**: the key holds no underscore, so the first one ends it. -/
theorem parameterOfToken_displayParam {key : String} {v : Value} (hkey : '_' ∉ key.toList)
    (hv : v.Writable) : parameterOfToken (Spec.displayParam key v) = (key, v) := by
  have hcut : Text.cut? '_' (Spec.displayParam key v) = some (key, v.display) :=
    Text.cut?_eq_some_iff.2 ⟨rfl, hkey⟩
  rw [parameterOfToken, hcut]
  exact Prod.ext rfl hv.coerce_display

/-! ## (3) Segments -/

/-- The segment of a spec is its kind and its tokens between commas. -/
theorem Spec.Writable.isCut_display {s : Spec} (h : s.Writable) :
    Text.IsCut ',' s.display (s.kind :: s.params.entries.map fun e => displayParam e.1 e.2) := by
  refine ⟨by simp, fun p hp => ?_, ?_⟩
  · -- no comma in the kind, nor in a token, which has three places for one
    rcases List.mem_cons.1 hp with rfl | hp
    · exact h.kind ',' (by decide)
    · obtain ⟨e, he, rfl⟩ := List.mem_map.1 hp
      intro hc
      rcases mem_displayParam hc with hkey | hmark | hvalue
      · exact h.keys e he ',' (by decide) hkey
      · exact absurd hmark (by decide)
      · exact (h.values e he).freeOf_display ',' (by decide) hvalue
  · rw [display, Text.foldl_append_eq_intercalate]
    rfl

/-- The segment of a spec holds no separator of paths. -/
theorem Spec.Writable.freeOf_display {s : Spec} (h : s.Writable) :
    Text.FreeOf ['/', '?'] s.display := by
  have hmarks : ∀ c ∈ ['/', '?'], c ≠ ',' ∧ c ≠ '_' ∧ c ∈ ['/', ',', '?'] ∧
      c ∈ ['/', ',', '?', '_'] := by simp
  intro c hc hmem
  obtain ⟨hcomma, hunder, hthree, hfour⟩ := hmarks c hc
  rcases h.isCut_display.mem hmem with rfl | ⟨p, hp, hcp⟩
  · exact hcomma rfl
  · rcases List.mem_cons.1 hp with rfl | hp
    · exact h.kind c hthree hcp
    · obtain ⟨e, he, rfl⟩ := List.mem_map.1 hp
      rcases mem_displayParam hcp with hkey | hmark | hvalue
      · exact h.keys e he c hfour hkey
      · exact hunder hmark
      · exact (h.values e he).freeOf_display c hthree hvalue

/-- **A written spec is read back from its segment.** -/
theorem Spec.Writable.ofSegment?_display {s : Spec} (h : s.Writable) :
    ofSegment? s.display = some s := by
  -- the entries come in the order of their keys, so putting them in again gives the same dictionary
  have hentries : (s.params.entries.map fun e => displayParam e.1 e.2).map parameterOfToken
      = s.params.entries := by
    have hid : s.params.entries.map (parameterOfToken ∘ fun e => displayParam e.1 e.2)
        = s.params.entries.map id :=
      List.map_congr_left fun e he =>
        parameterOfToken_displayParam (h.keys e he '_' (by decide)) (h.values e he)
    rw [List.map_map, hid, List.map_id]
  refine ofSegment?_eq_some_iff.2 ⟨h.named, _, h.isCut_display, ?_⟩
  rw [hentries, Dictionary.ofList_entries]

/-- The segment of a writable spec is read as a transformation. -/
theorem Spec.Writable.hasUnderscore_display {s : Spec} (h : s.Writable) :
    hasUnderscore s.display = true := by
  rw [hasUnderscore_iff]
  rcases h.marked with hentries | hkind
  · obtain ⟨e, he⟩ := List.exists_mem_of_ne_nil _ hentries
    refine h.isCut_display.mem_of_part
      (List.mem_cons_of_mem _ (List.mem_map.2 ⟨e, he, rfl⟩)) ?_
    simp [displayParam]
  · exact h.isCut_display.mem_of_part List.mem_cons_self hkind

/-! ## (4) Chains and paths -/

/-- **A written chain is read back**, segment by segment. -/
theorem Chain.ofSegments_map_display {chain : Chain} (h : ∀ s ∈ chain, s.Writable) :
    ofSegments (chain.map Spec.display) = chain := by
  induction chain with
  | nil => rfl
  | cons s rest ih =>
    have hs := h s List.mem_cons_self
    have hrest := ih fun t ht => h t (List.mem_cons_of_mem _ ht)
    have hread : (if hasUnderscore s.display then Spec.ofSegment? s.display else none) = some s := by
      rw [if_pos hs.hasUnderscore_display, hs.ofSegment?_display]
    simp only [List.map_cons, ofSegments, List.filterMap_cons, hread]
    exact congrArg (s :: ·) hrest

/-- The canonical path of a writable request has the shape that spells its parts. -/
theorem Request.Writable.shape_canonicalPath {r : Request} (h : r.Writable) :
    Shape r.canonicalPath ("" :: r.domain.toList) (r.chain.map Spec.display) r.asset.publicId := by
  have hparts : ∀ p ∈ "" :: r.domain.toList ++ ["upload"] ++ r.chain.map Spec.display
      ++ [r.asset.publicId], Text.FreeOf ['/', '?'] p := by
    intro p hp
    simp only [List.mem_append, List.mem_cons, List.not_mem_nil, or_false, Option.mem_toList,
      List.mem_map] at hp
    rcases hp with (((rfl | hd) | rfl) | ⟨s, hs, rfl⟩) | rfl
    · decide
    · exact (h.domain p hd).2.2
    · decide
    · exact (h.chain s hs).freeOf_display
    · exact h.id
  have hcut : Text.IsCut '/' r.canonicalPath ("" :: r.domain.toList ++ ["upload"]
      ++ r.chain.map Spec.display ++ [r.asset.publicId]) := by
    refine ⟨by simp, fun p hp => hparts p hp '/' (by decide), ?_⟩
    rw [Text.intercalate_concat, canonicalPath]
    apply String.toList_injective
    cases r.domain with
    | none => simp [Function.comp_def]
    | some d => simp [Function.comp_def]
  refine ⟨⟨r.canonicalPath, ⟨fun hc => ?_, .inl rfl⟩, hcut⟩, ?_, h.named⟩
  · -- the path has no query: a question mark would stand in a part
    rcases hcut.mem hc with hmark | ⟨p, hp, hcp⟩
    · exact absurd hmark (by decide)
    · exact hparts p hp '?' (by decide) hcp
  · -- neither the empty segment in front nor the domain is the delimiter
    intro hmem
    rcases List.mem_cons.1 hmem with hempty | hd
    · exact absurd hempty (by decide)
    · exact (h.domain _ (Option.mem_toList.1 hd)).2.1 rfl

/-- **A writable request is read back from its canonical path.** -/
theorem Request.Writable.parse_canonicalPath {r : Request} (h : r.Writable) :
    parse r.canonicalPath = .ok r := by
  refine parse_eq_ok_iff.2 ⟨_, _, _, h.shape_canonicalPath, ?_⟩
  -- without a domain the empty segment in front is the last one, and it is left out
  have hdomain : ("" :: r.domain.toList).getLast?.filter (· ≠ "") = r.domain := by
    cases hd : r.domain with
    | none => rfl
    | some d =>
      have hne : d ≠ "" := (h.domain d hd).1
      simp [hne]
  rw [ofShape, hdomain, Chain.ofSegments_map_display h.chain]

/-! ## (5) What is read can be written -/

/-- A token between commas and slashes is read as a parameter that can be written. -/
theorem writable_parameterOfToken {token : String} (h : Text.FreeOf ['/', ',', '?'] token)
    (hfinite : ∀ x, (parameterOfToken token).2 = .number x → x.isFinite = true) :
    Text.FreeOf ['/', ',', '?', '_'] (parameterOfToken token).1 ∧
      (parameterOfToken token).2.Writable := by
  have hfour : ∀ c ∈ ['/', ',', '?', '_'], c = '_' ∨ c ∈ ['/', ',', '?'] := by simp
  obtain ⟨key, raw, heq, hkey, hmem⟩ := parameterOfToken_eq token
  rw [heq] at hfinite ⊢
  refine ⟨fun c hc => ?_, ?_⟩
  · rcases hfour c hc with rfl | hthree
    · exact hkey
    · exact fun hin => h c hthree (hmem c (.inl hin))
  · dsimp only at hfinite ⊢
    cases hv : coerce raw with
    | number x => exact hfinite x hv
    | text t =>
      obtain ⟨rfl, hdecimal⟩ := coerce_eq_text_iff.1 hv
      exact ⟨fun c hthree hin => h c hthree (hmem c (.inr hin)), hdecimal⟩

/-- A segment of a path is read as a spec that can be written. -/
theorem Spec.writable_of_ofSegment? {segment : String} {s : Spec}
    (hsegment : Text.FreeOf ['/', '?'] segment) (hunder : '_' ∈ segment.toList)
    (hs : ofSegment? segment = some s)
    (hfinite : ∀ e ∈ s.params.entries, ∀ x, e.2 = .number x → x.isFinite = true) :
    s.Writable := by
  obtain ⟨hkind, tokens, hcut, hparams⟩ := ofSegment?_eq_some_iff.1 hs
  have hfree : ∀ p ∈ s.kind :: tokens, Text.FreeOf ['/', ',', '?'] p := by
    have hthree : ∀ c ∈ ['/', ',', '?'], c = ',' ∨ c ∈ ['/', '?'] := by simp
    intro p hp c hc hcp
    rcases hthree c hc with rfl | htwo
    · exact hcut.2.1 p hp hcp
    · exact hsegment c htwo (hcut.mem_of_part hp hcp)
  have hentries : ∀ e ∈ s.params.entries,
      Text.FreeOf ['/', ',', '?', '_'] e.1 ∧ e.2.Writable := by
    intro e he
    have hlist := he
    rw [hparams] at hlist
    obtain ⟨token, ht, rfl⟩ := List.mem_map.1 (Dictionary.mem_of_mem_ofList hlist)
    exact writable_parameterOfToken (hfree token (List.mem_cons_of_mem _ ht)) (hfinite _ he)
  refine ⟨hkind, hfree s.kind List.mem_cons_self, fun e he => (hentries e he).1,
    fun e he => (hentries e he).2, ?_⟩
  by_cases ht : tokens = []
  · -- the kind is all of the segment, so the underscore is in it
    subst ht
    rcases hcut.mem hunder with hcomma | ⟨p, hp, hcp⟩
    · exact absurd hcomma (by decide)
    · rw [List.mem_singleton.1 hp] at hcp
      exact .inr hcp
  · rw [hparams]
    exact .inl (Dictionary.ofList_ne_nil (by simpa using ht))

/-- **Every request that is read with finite numbers can be written.** -/
theorem Request.writable_of_parse {raw : String} {r : Request} (h : parse raw = .ok r)
    (hfinite : ∀ s ∈ r.chain, ∀ e ∈ s.params.entries, ∀ x, e.2 = .number x → x.isFinite = true) :
    r.Writable := by
  obtain ⟨before, middle, id, hshape, rfl⟩ := parse_eq_ok_iff.1 h
  obtain ⟨⟨path, hpath, hcut⟩, hfirst, hnamed⟩ := hshape
  have hfree : ∀ p ∈ before ++ ["upload"] ++ middle ++ [id], Text.FreeOf ['/', '?'] p := by
    have htwo : ∀ c ∈ ['/', '?'], c = '/' ∨ c = '?' := by simp
    intro p hp c hc hcp
    rcases htwo c hc with rfl | rfl
    · exact hcut.2.1 p hp hcp
    · exact hpath.1 (hcut.mem_of_part hp hcp)
  refine ⟨hnamed, hfree id (by simp), fun d hd => ?_, fun s hs => ?_⟩
  · have hd' : before.getLast?.filter (· ≠ "") = some d := hd
    obtain ⟨hlast, hne⟩ := Option.filter_eq_some_iff.1 hd'
    have hmem : d ∈ before := List.mem_of_getLast? hlast
    exact ⟨by simpa using hne, fun he => hfirst (he ▸ hmem), hfree d (by simp [hmem])⟩
  · obtain ⟨segment, hsegment, hread⟩ := List.mem_filterMap.1 hs
    split at hread
    · rename_i hunder
      exact Spec.writable_of_ofSegment? (hfree segment (by simp [hsegment]))
        (hasUnderscore_iff.1 hunder) hread (hfinite s hs)
    · cases hread

/-! ## (6) The round trip -/

/-- **Reading and writing paths are inverse.** Every request that is read with finite numbers, and
every request put together from names and values without separators, is read back from its
canonical path: the same domain, id, kinds, keys and values. -/
theorem Request.canonicalPath_roundTrip :
    (∀ raw r, parse raw = .ok r →
      (∀ s ∈ r.chain, ∀ e ∈ s.params.entries, ∀ x, e.2 = .number x → x.isFinite = true) →
        parse r.canonicalPath = .ok r) ∧
    ∀ r : Request, r.Writable → parse r.canonicalPath = .ok r :=
  ⟨fun _ _ h hfinite => (writable_of_parse h hfinite).parse_canonicalPath,
    fun _ h => h.parse_canonicalPath⟩

/-- A path with a query, a number in another spelling, a key without value and a value with an
underscore; and a request put together with an empty key. -/
theorem Request.canonicalPath_roundTrip_sample :
    (∃ r, parse "/image/upload/c_fill,w_1.50,e,t_a_b/so_5/cat.png?v=1" = .ok r ∧
      r.canonicalPath = "/image/upload/c_fill,e_,t_a_b,w_1.5/so_5/cat.png" ∧
      parse r.canonicalPath = .ok r) ∧
    ∃ r : Request, r.Writable ∧ parse r.canonicalPath = .ok r := by
  have hwritable : (⟨none, ⟨"cat"⟩, [⟨"so", Dictionary.empty.insert "" (.text "1.2.3")⟩]⟩ :
      Request).Writable := by
    refine ⟨by decide, by decide, by decide, fun s hs => ?_⟩
    rw [List.mem_singleton.1 hs]
    exact ⟨by decide, by decide, by decide, by decide, .inl (by decide)⟩
  have hread : parse "/image/upload/c_fill,w_1.50,e,t_a_b/so_5/cat.png?v=1"
      = .ok ⟨some "image", ⟨"cat.png"⟩, [⟨"c_fill", Dictionary.ofList
        [("w", .number (.ofRatio false 3 2)), ("e", .text ""), ("t", .text "a_b")]⟩,
        ⟨"so_5", Dictionary.empty⟩]⟩ := rfl
  refine ⟨⟨_, hread, by decide +kernel, canonicalPath_roundTrip.1 _ _ hread ?_⟩,
    _, hwritable, canonicalPath_roundTrip.2 _ hwritable⟩
  intro s hs e he x hx
  have hall : ∀ e ∈ (Dictionary.ofList [("w", Value.number (.ofRatio false 3 2)),
      ("e", .text ""), ("t", .text "a_b")]).entries, e.2.Writable := by
    decide +kernel
  rcases List.mem_cons.1 hs with rfl | hs
  · have hwritten := hall e he
    rw [hx] at hwritten
    exact hwritten
  · rw [List.mem_singleton.1 hs] at he
    cases he

end MediaTransform
