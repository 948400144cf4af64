import MediaTransform.Proofs.Service.Stages

/-! # Addresses and the paths that they lead to

A path is given bare or in an address with a scheme and a host.

* **`CommandLine.HoldsMark`** — a text in which the mark of a scheme stands, wherever that is.
* **`CommandLine.requestPath_eq_self_iff`** — a bare path is taken as it is exactly where it holds
  no such mark, in its query neither.
* **`CommandLine.requestPath_address`** — the path of an address is what follows its host.
* **`CommandLine.Spells`** — the texts that spell a path; `spellings_read_alike` says that they are
  read as the path is over HTTP. -/

namespace MediaTransform

namespace CommandLine

/-! ## (1) Marks -/

/-- **A text with the mark of a scheme in it**, wherever it stands. -/
def HoldsMark (cs : List Char) : Prop := schemeMark <:+: cs

/-- A mark is found exactly where there is one. -/
theorem afterSchemeMark?_eq_none_iff {cs : List Char} :
    afterSchemeMark? cs = none ↔ ¬HoldsMark cs := by
  induction cs with
  | nil => exact ⟨fun _ h => absurd (List.infix_nil.1 h) (by decide), fun _ => rfl⟩
  | cons c cs ih =>
    rw [HoldsMark, List.infix_cons_iff, not_or, ← HoldsMark, ← ih, afterSchemeMark?]
    by_cases h : schemeMark.isPrefixOf (c :: cs) = true
    · rw [if_pos h]
      exact ⟨nofun, fun hnone => absurd (List.isPrefixOf_iff_prefix.1 h) hnone.1⟩
    · rw [if_neg h]
      have hnot : ¬schemeMark <+: c :: cs := fun hprefix => h (List.isPrefixOf_iff_prefix.2 hprefix)
      exact ⟨fun hnone => ⟨hnot, hnone⟩, fun hnone => hnone.2⟩

/-- What follows a mark is shorter by the mark at least. -/
theorem length_lt_of_afterSchemeMark? {cs rest : List Char} (h : afterSchemeMark? cs = some rest) :
    rest.length + 3 ≤ cs.length := by
  induction cs with
  | nil => cases h
  | cons c cs ih =>
    rw [afterSchemeMark?] at h
    split at h
    · rename_i hprefix
      cases h
      have hlength : 3 ≤ (c :: cs).length := (List.isPrefixOf_iff_prefix.1 hprefix).length_le
      rw [List.length_drop]
      show (c :: cs).length - 3 + 3 ≤ _
      omega
    · have hle := ih h
      rw [List.length_cons]
      omega

/-- **The first mark is the one after a text without slashes.** -/
theorem afterSchemeMark?_append {before : List Char} (h : '/' ∉ before) (rest : List Char) :
    afterSchemeMark? (before ++ (schemeMark ++ rest)) = some rest := by
  induction before with
  | nil => rfl
  | cons c before ih =>
    obtain ⟨-, hbefore⟩ := not_or.1 (mt List.mem_cons.2 h)
    have hnot : ¬schemeMark.isPrefixOf (c :: (before ++ (schemeMark ++ rest))) = true := by
      -- a mark here would have its first slash before the mark, or in the place of the colon
      intro hprefix
      obtain ⟨more, hmore⟩ := List.isPrefixOf_iff_prefix.1 hprefix
      cases before with
      | nil => cases hmore
      | cons d before =>
        obtain ⟨-, hslash, -⟩ : ':' = c ∧ '/' = d ∧ _ := by
          simpa [schemeMark] using hmore
        exact hbefore (hslash ▸ List.mem_cons_self)
    rw [List.cons_append, afterSchemeMark?, if_neg hnot]
    exact ih hbefore

/-! ## (2) Paths -/

/-- What is read as a path instead is shorter, or the slash alone. -/
theorem requestPath_of_mark {url : String} {rest : List Char}
    (h : afterSchemeMark? url.toList = some rest) :
    (requestPath url).toList.length + 2 ≤ url.toList.length := by
  have hrest := length_lt_of_afterSchemeMark? h
  have hdrop : (rest.dropWhile (· ≠ '/')).length ≤ rest.length :=
    (List.dropWhile_suffix _).length_le
  rw [requestPath, h]
  dsimp only
  split
  · show 1 + 2 ≤ _
    omega
  · rw [String.toList_ofList]
    omega

/-- **A bare path is taken as it is exactly where it holds no mark of a scheme.** -/
theorem requestPath_eq_self_iff {p : String} : requestPath p = p ↔ ¬HoldsMark p.toList := by
  rw [← afterSchemeMark?_eq_none_iff]
  constructor
  · intro h
    cases hmark : afterSchemeMark? p.toList with
    | none => rfl
    | some rest =>
      have hshort := requestPath_of_mark hmark
      rw [h] at hshort
      omega
  · intro h
    rw [requestPath, h]

/-- **The path of an address is what follows its host.** -/
theorem requestPath_address {scheme host p : String} (hscheme : '/' ∉ scheme.toList)
    (hhost : '/' ∉ host.toList) (hp : p.toList.head? = some '/') :
    requestPath (scheme ++ "://" ++ host ++ p) = p := by
  have hmark : afterSchemeMark? (scheme ++ "://" ++ host ++ p).toList
      = some (host.toList ++ p.toList) := by
    rw [String.toList_append, String.toList_append, String.toList_append, List.append_assoc,
      List.append_assoc]
    exact afterSchemeMark?_append hscheme _
  have hdrop : (host.toList ++ p.toList).dropWhile (· ≠ '/') = p.toList := by
    have hpass : ∀ c ∈ host.toList, decide (c ≠ '/') = true := fun c hc =>
      decide_eq_true fun heq => hhost (heq ▸ hc)
    rw [List.dropWhile_append_of_pos hpass]
    cases hlist : p.toList with
    | nil => rfl
    | cons c cs =>
      rw [hlist] at hp
      cases hp
      rfl
  rw [requestPath, hmark]
  dsimp only
  rw [hdrop]
  split
  · rename_i hnil
    rw [hnil] at hp
    cases hp
  · exact String.ofList_toList

/-- **The texts that spell a path**: the path itself, unless it holds a mark of a scheme, and every
address with a scheme and a host in front of it. -/
inductive Spells (p : String) : String → Prop
  | bare (free : ¬HoldsMark p.toList) : Spells p p
  | address (scheme host : String) (ofScheme : '/' ∉ scheme.toList) (ofHost : '/' ∉ host.toList) :
      Spells p (scheme ++ "://" ++ host ++ p)

theorem Spells.requestPath_eq {p url : String} (h : Spells p url)
    (hp : p.toList.head? = some '/') : requestPath url = p := by
  cases h with
  | bare free => exact requestPath_eq_self_iff.2 free
  | address scheme host ofScheme ofHost => exact requestPath_address ofScheme ofHost hp

/-! ## (3) What is made of a path -/

/-- What is reported on an address whose path cannot be read. -/
theorem parseReport_of_malformed {url : String} {json : Bool} {e : Error}
    (h : Request.parse (requestPath url) = .error e) :
    parseReport url json = (Failure.ofError e).report "" := by
  unfold parseReport
  rw [h]

/-- What is reported on an address whose path is read. -/
theorem parseReport_of_parse {url : String} {json : Bool} {r : Request}
    (h : Request.parse (requestPath url) = .ok r) :
    parseReport url json = .fine (if json then r.toJson.pretty ++ "\n" else describe r) := by
  unfold parseReport
  rw [h]

/-- **The report on contents that are to be written**, if they are all there. -/
def deliveryReport (w : World) (path mime : String) : Except Error Buffer → Report
  | .error e => (Failure.ofError e).report ""
  | .ok contents =>
    match w.writeError? path with
    | some e => Failure.report ⟨"Failed to write " ++ path, some e.message⟩ ""
    | none =>
      { Report.fine (writtenLine contents mime path) with written := some (path, contents) }

/-- **The report on a result.** -/
def resultReport (w : World) (config : Config) (path : String) : Except Error Rendered → Report
  | .error e => (Failure.ofError e).report ""
  | .ok rendered =>
    deliveryReport w path rendered.mime (rendered.contents config.pipeline.streamBufferChunks)

/-- The report on a rendered address is that on its result. -/
theorem renderReport_eq (w : World) (config : Config) (url path : String) :
    renderReport w config url path
      = resultReport w config path ((serviceOf w config).render (requestPath url)) := by
  unfold renderReport resultReport
  cases (serviceOf w config).render (requestPath url) with
  | error e => rfl
  | ok rendered =>
    cases rendered.contents config.pipeline.streamBufferChunks with
    | error e => rfl
    | ok contents => rfl

end CommandLine

/-- **The result of a request**, however it was spelled. -/
def Service.serve (s : Service) (r : Request) : Except Error Rendered := do
  let route ← Route.ofRequest r
  s.fulfil route r.asset r.chain

theorem Service.render_of_parse {s : Service} {path : String} {r : Request}
    (h : Request.parse path = .ok r) : s.render path = s.serve r := by
  rw [render, h]
  rfl

theorem Service.render_of_malformed {s : Service} {path : String} {e : Error}
    (h : Request.parse path = .error e) : s.render path = .error e := by
  rw [render, h]
  rfl

/-- **The reply on a result.** -/
def Http.resultReply (capacity : Nat) (id : String) : Except Error Rendered → Http.Reply
  | .ok rendered => ofRendered capacity id rendered
  | .error e => failure (some id) e

/-- The reply to a request for a rendering is that on its result. -/
theorem Http.answer_eq_resultReply {s : Service} {fresh : String} {call : Http.Call}
    (h : call.IsRendering) :
    answer s fresh call = resultReply s.config.streamBufferChunks
      (identifier fresh call.identifier) (s.render call.target.pathAndQuery) := by
  rw [answer_of_isRendering h, reply]
  cases s.render call.target.pathAndQuery with
  | ok rendered => rfl
  | error e => rfl

/-! ## (4) All spellings -/

namespace CommandLine

/-- **The command line reads what is read over HTTP.** A bare path is taken as it is exactly where
it holds no mark of a scheme, and the path of an address is what follows its host. In each of these
spellings the command line describes and renders the request that is answered over HTTP for the
path, with the same domain, id and chain, or it reports the failure that is replied there. -/
theorem spellings_read_alike (p : String) (hp : p.toList.head? = some '/') :
    (requestPath p = p ↔ ¬HoldsMark p.toList) ∧
    (∀ scheme host : String, '/' ∉ scheme.toList → '/' ∉ host.toList →
      requestPath (scheme ++ "://" ++ host ++ p) = p) ∧
    ∀ url, Spells p url →
      match Request.parse p with
      | .error e => (∃ reason, e = .malformedUrl reason) ∧
        (∀ json, parseReport url json = (Failure.ofError e).report "") ∧
        (∀ w config path, renderReport w config url path = (Failure.ofError e).report "") ∧
        ∀ s fresh (call : Http.Call), call.IsRendering → call.target.pathAndQuery = p →
          Http.answer s fresh call
            = Http.failure (some (Http.identifier fresh call.identifier)) e
      | .ok r =>
        (∀ json, parseReport url json
          = .fine (if json then r.toJson.pretty ++ "\n" else describe r)) ∧
        (∀ w config path, renderReport w config url path
          = resultReport w config path ((serviceOf w config).serve r)) ∧
        ∀ s fresh (call : Http.Call), call.IsRendering → call.target.pathAndQuery = p →
          Http.answer s fresh call = Http.resultReply s.config.streamBufferChunks
            (Http.identifier fresh call.identifier) (s.serve r) := by
  refine ⟨requestPath_eq_self_iff, fun scheme host hscheme hhost =>
    requestPath_address hscheme hhost hp, fun url hspells => ?_⟩
  have hpath : requestPath url = p := hspells.requestPath_eq hp
  cases hparse : Request.parse p with
  | error e =>
    refine ⟨?_, fun json => ?_, fun w config path => ?_, fun s fresh call hcall htarget => ?_⟩
    · rcases Request.parse_ok_or_malformed p with ⟨r, hr⟩ | ⟨reason, hreason⟩
      · cases hparse.symm.trans hr
      · exact ⟨reason, Except.error.inj (hparse.symm.trans hreason)⟩
    · exact parseReport_of_malformed (by rw [hpath, hparse])
    · rw [renderReport_eq, hpath, Service.render_of_malformed hparse]
      rfl
    · rw [Http.answer_eq_resultReply hcall, htarget, Service.render_of_malformed hparse]
      rfl
  | ok r =>
    refine ⟨fun json => ?_, fun w config path => ?_, fun s fresh call hcall htarget => ?_⟩
    · exact parseReport_of_parse (by rw [hpath, hparse])
    · rw [renderReport_eq, hpath, Service.render_of_parse hparse]
    · rw [Http.answer_eq_resultReply hcall, htarget, Service.render_of_parse hparse]

/-- A path whose query names another address is read as such after a host, and so is a bare one
without a query. -/
theorem spellings_read_alike_sample :
    parseReport "http://host/image/upload/a.jpg?ref=http://other/x" false
      = .fine "Domain: image\nAsset: a.jpg\nNo transformations\n" ∧
    parseReport "/image/upload/a.jpg" false
      = .fine "Domain: image\nAsset: a.jpg\nNo transformations\n" ∧
    requestPath "/image/upload/a.jpg" = "/image/upload/a.jpg" := by
  have hquery : Request.parse "/image/upload/a.jpg?ref=http://other/x"
      = .ok ⟨some "image", ⟨"a.jpg"⟩, []⟩ := by
    decide +kernel
  have hplain : Request.parse "/image/upload/a.jpg" = .ok ⟨some "image", ⟨"a.jpg"⟩, []⟩ := by
    decide +kernel
  have hfree : ¬HoldsMark "/image/upload/a.jpg".toList :=
    afterSchemeMark?_eq_none_iff.1 (by decide)
  have haddress : "http://host/image/upload/a.jpg?ref=http://other/x"
      = "http" ++ "://" ++ "host" ++ "/image/upload/a.jpg?ref=http://other/x" := by
    decide +kernel
  obtain ⟨-, -, hqueried⟩ :=
    spellings_read_alike "/image/upload/a.jpg?ref=http://other/x" (by decide)
  obtain ⟨hself, -, hspelled⟩ := spellings_read_alike "/image/upload/a.jpg" (by decide)
  have hfirst := hqueried _ (.address "http" "host" (by decide) (by decide))
  have hsecond := hspelled _ (.bare hfree)
  rw [hquery] at hfirst
  rw [hplain] at hsecond
  refine ⟨?_, ?_, hself.2 hfree⟩
  · rw [haddress]
    exact hfirst.1 false
  · exact hsecond.1 false

/-- **A bare path whose query names another address is not taken as it is**: the command line reads
the path of the other address, where over HTTP the path itself is read. -/
theorem not_requestPath_self :
    requestPath "/image/upload/a.jpg?ref=http://other/x" = "/x" ∧
    parseReport "/image/upload/a.jpg?ref=http://other/x" false
      = (Failure.ofError (.malformedUrl "no 'upload' segment in /x")).report "" ∧
    Request.parse "/image/upload/a.jpg?ref=http://other/x"
      = .ok ⟨some "image", ⟨"a.jpg"⟩, []⟩ := by
  have hpath : requestPath "/image/upload/a.jpg?ref=http://other/x" = "/x" := by decide +kernel
  have hparse : Request.parse "/x" = .error (.malformedUrl "no 'upload' segment in /x") := by
    decide +kernel
  exact ⟨hpath, parseReport_of_malformed (by rw [hpath, hparse]), by decide +kernel⟩

end CommandLine

end MediaTransform
