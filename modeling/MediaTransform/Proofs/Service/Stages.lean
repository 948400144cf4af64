import MediaTransform.Proofs.Service.Confinement
import MediaTransform.Proofs.Video.Plan

/-! # The stages of a request

* **`Stage`** — what is done for a request, in the order in which it is done.
* **`Service.failures`** — the stages that fail, each judged by itself.
* **`Service.errorOf_render`** — the first of them gives the error of the request.
* **`Service.unread_of_failure`**, **`Service.eq_publicId_of_mem_reads`** — what is not read where a
  stage fails.
* **`Service.first_failure_answers`** — replies and reports are those of the first failing stage. -/

namespace MediaTransform

/-! ## (1) Errors of computations -/

section Errors

variable {α β : Type}

/-- The error of a computation, if it fails. -/
def errorOf : Except Error α → Option Error
  | .ok _ => none
  | .error e => some e

theorem errorOf_eq_some_iff {x : Except Error α} {e : Error} :
    errorOf x = some e ↔ x = .error e := by
  cases x with
  | ok a => exact ⟨nofun, nofun⟩
  | error e' => simp [errorOf]

theorem errorOf_eq_none_iff {x : Except Error α} : errorOf x = none ↔ ∃ a, x = .ok a := by
  cases x with
  | ok a => exact ⟨fun _ => ⟨a, rfl⟩, fun _ => rfl⟩
  | error e => exact ⟨nofun, nofun⟩

/-- What is made of a result does not matter. -/
theorem errorOf_map (f : α → β) (x : Except Error α) : errorOf (x.map f) = errorOf x := by
  cases x with
  | ok a => rfl
  | error e => rfl

/-- Of several assets, the first one that cannot be read gives the error. -/
theorem Service.errorOf_load (assets : AssetStore) (ids : List String) :
    errorOf (load assets ids) = ids.findSome? fun n => errorOf (assets n) := by
  induction ids with
  | nil => rfl
  | cons id rest ih =>
    rw [load, List.findSome?_cons, ← ih]
    cases assets id with
    | error e => rfl
    | ok contents =>
      dsimp only [errorOf]
      cases load assets rest with
      | error e => rfl
      | ok loaded => rfl

end Errors

/-! ## (2) Stages -/

/-- **What is done for a request.** -/
inductive Stage where
  /-- The path is read. -/
  | path
  /-- The domain is settled. -/
  | domain
  /-- The media type is settled. -/
  | mediaType
  /-- The asset is read. -/
  | source
  /-- The chain of an image runs. -/
  | chain
  /-- The chain of a video is planned. -/
  | plan
  /-- The tool of videos is found. -/
  | tool
  /-- The spliced assets are read, in the order of the plan. -/
  | splices
  deriving DecidableEq, Repr

namespace Stage

/-- The stages of a domain, in their order. -/
def ofDomain : Domain → List Stage
  | .image => [chain]
  | .video => [plan, tool, splices]

/-- **The stages of a request that was read**, in their order. -/
def ofRequest (r : Request) : List Stage :=
  [domain, mediaType, source] ++
    match Domain.ofName (r.domain.getD "") with
    | .ok d => ofDomain d
    | .error _ => []

end Stage

namespace Service

variable {s : Service} {r : Request} {path : String} {stage : Stage} {e : Error}

/-- **Why a stage of a request fails**, if it does, whatever comes of the stages that it does not
need anything from. -/
def failureAt (s : Service) (r : Request) : Stage → Option Error
  | .path => none
  | .domain => errorOf (Domain.ofName (r.domain.getD ""))
  | .mediaType =>
    if (mimeOfId r.asset.publicId).isSome then none else some (.unsupportedMedia r.asset.publicId)
  | .source => errorOf (s.assets r.asset.publicId)
  | .chain =>
    match s.assets r.asset.publicId with
    | .ok source => errorOf (Image.run s.config source r.chain)
    | .error _ => none
  | .plan => errorOf (s.plan r.chain)
  | .tool => errorOf (s.tools.require Toolbox.transcoder)
  | .splices =>
    match s.plan r.chain with
    | .ok command => command.splices.findSome? fun n => errorOf (s.assets n)
    | .error _ => none

/-- **The stages of a path that fail**, in their order, with their errors. -/
def failures (s : Service) (path : String) : List (Stage × Error) :=
  match Request.parse path with
  | .error e => [(.path, e)]
  | .ok r => (Stage.ofRequest r).filterMap fun stage => (s.failureAt r stage).map (stage, ·)

/-- The stages that fail are stages of the request, for the reason that they have by themselves. -/
theorem mem_failures (hparse : Request.parse path = .ok r) :
    (stage, e) ∈ s.failures path ↔ stage ∈ Stage.ofRequest r ∧ s.failureAt r stage = some e := by
  simp only [failures, hparse, List.mem_filterMap, Option.map_eq_some_iff, Prod.mk.injEq]
  constructor
  · rintro ⟨stage', hstage, e', he, rfl, rfl⟩
    exact ⟨hstage, he⟩
  · rintro ⟨hstage, he⟩
    exact ⟨stage, hstage, e, he, rfl, rfl⟩

/-- A path fails as a malformed one. -/
theorem malformed_of_mem_failures (h : (.path, e) ∈ s.failures path) :
    ∃ reason, e = .malformedUrl reason := by
  rcases Request.parse_ok_or_malformed path with ⟨r, hr⟩ | ⟨reason, hreason⟩
  · cases ((mem_failures hr).1 h).2
  · simp only [failures, hreason, List.mem_singleton, Prod.mk.injEq, true_and] at h
    exact ⟨reason, h⟩

/-- A domain fails as an unsupported one. -/
theorem unsupportedType_of_mem_failures (hparse : Request.parse path = .ok r)
    (h : (.domain, e) ∈ s.failures path) : e = .unsupportedType (r.domain.getD "") := by
  have hfails := errorOf_eq_some_iff.1 ((mem_failures hparse).1 h).2
  unfold Domain.ofName at hfails
  split at hfails
  · cases hfails
  · split at hfails
    · cases hfails
    · cases hfails
      rfl

/-- A media type fails as an unsupported one. -/
theorem unsupportedMedia_of_mem_failures (hparse : Request.parse path = .ok r)
    (h : (.mediaType, e) ∈ s.failures path) : e = .unsupportedMedia r.asset.publicId := by
  have hfails := ((mem_failures hparse).1 h).2
  rw [failureAt] at hfails
  split at hfails
  · cases hfails
  · cases hfails
    rfl

/-! ## (3) The first failure -/

/-- Settling a route fails with the first failure of the domain and the media type. -/
theorem errorOf_ofRequest (s : Service) (r : Request) :
    errorOf (Route.ofRequest r) = [Stage.domain, .mediaType].findSome? (s.failureAt r) := by
  unfold Route.ofRequest Route.settle
  cases hdomain : Domain.ofName (r.domain.getD "") with
  | error e => simp only [List.findSome?_cons, failureAt, hdomain, errorOf, bind, Except.bind]
  | ok d =>
    cases hmime : mimeOfId r.asset.publicId with
    | none => simp [failureAt, hdomain, hmime, errorOf, bind, Except.bind, throw, throwThe,
        MonadExceptOf.throw]
    | some mime => simp [failureAt, hdomain, hmime, errorOf, bind, Except.bind, pure, Except.pure]

/-- The route of a request has the domain of the request. -/
theorem domain_of_ofRequest {route : Route} (h : Route.ofRequest r = .ok route) :
    Domain.ofName (r.domain.getD "") = .ok route.domain := by
  obtain ⟨d, hdomain, hmime⟩ := bind_eq_ok_iff.1 h
  split at hmime
  · cases hmime
    exact hdomain
  · cases hmime

/-- Preparing a transcode fails with the first failure of planning, of the tool and of the spliced
assets. -/
theorem errorOf_prepare (s : Service) (r : Request) (source : Bytes) (mime : String) :
    errorOf (s.prepare source r.chain mime)
      = (Stage.ofDomain .video).findSome? (s.failureAt r) := by
  unfold prepare Stage.ofDomain
  cases hplan : s.plan r.chain with
  | error e => simp only [List.findSome?_cons, failureAt, hplan, errorOf, bind, Except.bind]
  | ok command =>
    cases htool : s.tools.require Toolbox.transcoder with
    | error e =>
      simp only [List.findSome?_cons, failureAt, hplan, htool, errorOf, bind, Except.bind]
    | ok path =>
      simp only [List.findSome?_cons, failureAt, hplan, htool, ← errorOf_load, bind, Except.bind]
      cases load s.assets command.splices with
      | error e => rfl
      | ok loaded => rfl

/-- Executing a chain fails with the first failure of the stages of the domain. -/
theorem errorOf_execute {source : Buffer} (hsource : s.assets r.asset.publicId = .ok source)
    (route : Route) :
    errorOf (s.execute route source r.chain)
      = (Stage.ofDomain route.domain).findSome? (s.failureAt r) := by
  unfold execute
  cases route.domain with
  | image =>
    dsimp only
    rw [errorOf_map, Stage.ofDomain, List.findSome?_singleton, failureAt, hsource]
  | video =>
    dsimp only
    rw [errorOf_map, errorOf_prepare]

/-- The stages that have the route come first; then the asset is read, and then come those of the
domain. -/
theorem findSome?_ofRequest (s : Service) (r : Request) :
    (Stage.ofRequest r).findSome? (s.failureAt r)
      = (errorOf (Route.ofRequest r)).or ((errorOf (s.assets r.asset.publicId)).or
          (List.findSome? (s.failureAt r) <|
            match Domain.ofName (r.domain.getD "") with
            | .ok d => Stage.ofDomain d
            | .error _ => [])) := by
  have hsplit : Stage.ofRequest r = [.domain, .mediaType] ++ [.source] ++ _ := rfl
  rw [hsplit, List.findSome?_append, List.findSome?_append, ← errorOf_ofRequest, Option.or_assoc,
    List.findSome?_singleton, failureAt]

/-- Fulfilling a request fails with the first failure of reading its asset and of the stages of its
domain. -/
theorem errorOf_fulfil (s : Service) (route : Route) (r : Request) :
    errorOf (s.fulfil route r.asset r.chain)
      = (errorOf (s.assets r.asset.publicId)).or
          ((Stage.ofDomain route.domain).findSome? (s.failureAt r)) := by
  unfold fulfil
  cases hsource : s.assets r.asset.publicId with
  | error e => rfl
  | ok source =>
    show errorOf (s.execute route source r.chain) = _
    rw [errorOf_execute hsource, errorOf, Option.none_or]

/-- **The first failing stage gives the error.** -/
theorem errorOf_render (s : Service) (path : String) :
    errorOf (s.render path) = (s.failures path).head?.map Prod.snd := by
  unfold render failures
  cases hparse : Request.parse path with
  | error e => rfl
  | ok r =>
    have hfirst : ((Stage.ofRequest r).filterMap
        fun stage => (s.failureAt r stage).map (stage, ·)).head?.map Prod.snd
          = (Stage.ofRequest r).findSome? (s.failureAt r) := by
      simp [List.head?_filterMap, List.map_findSome?, Function.comp_def, Option.map_map]
    dsimp only [bind, Except.bind]
    rw [hfirst, findSome?_ofRequest]
    cases hroute : Route.ofRequest r with
    | error e => rfl
    | ok route =>
      dsimp only
      rw [errorOf_fulfil, domain_of_ofRequest hroute, errorOf, Option.none_or]

/-- **The first stage of a path that fails**, with its error. -/
def firstFailure (s : Service) (path : String) : Option (Stage × Error) := (s.failures path).head?

theorem render_of_firstFailure (h : s.firstFailure path = some (stage, e)) :
    s.render path = .error e := by
  rw [← errorOf_eq_some_iff, errorOf_render, ← firstFailure, h]
  rfl

theorem exists_render_of_firstFailure (h : s.firstFailure path = none) :
    ∃ rendered, s.render path = .ok rendered := by
  rw [← errorOf_eq_none_iff, errorOf_render, ← firstFailure, h]
  rfl

/-! ## (4) What is not read -/

/-- **Where the path, the domain or the media type fails**, nothing is read, and every service fails
with the same error. -/
theorem unread_of_failure (h : (stage, e) ∈ s.failures path)
    (hstage : stage ∈ [Stage.path, .domain, .mediaType]) :
    s.reads path = [] ∧ ∃ e', ∀ other : Service, other.render path = .error e' := by
  cases hparse : Request.parse path with
  | error e' =>
    refine ⟨by rw [reads, hparse], e', fun other => ?_⟩
    rw [render, hparse]
    rfl
  | ok r =>
    cases hroute : Route.ofRequest r with
    | error e' =>
      refine ⟨by simp only [reads, hparse, hroute], e', fun other => ?_⟩
      simp only [render, hparse, hroute, bind, Except.bind]
    | ok route =>
      -- a settled route leaves none of these stages to fail
      have hnone := errorOf_ofRequest s r
      rw [hroute, errorOf, eq_comm, List.findSome?_eq_none_iff] at hnone
      have hfails := ((mem_failures hparse).1 h).2
      rcases List.mem_cons.1 hstage with rfl | hsettled
      · cases hfails
      · rw [hnone stage hsettled] at hfails
        cases hfails

/-- **Where planning fails or the tool is missing**, nothing is read but the asset itself. -/
theorem eq_publicId_of_mem_reads (h : (stage, e) ∈ s.failures path)
    (hstage : stage ∈ [Stage.plan, .tool]) (hparse : Request.parse path = .ok r) {n : String}
    (hn : n ∈ s.reads path) : n = r.asset.publicId := by
  have hfails := ((mem_failures hparse).1 h).2
  obtain ⟨r', hparse', horigin⟩ := exists_of_mem_reads hn
  rw [hparse] at hparse'
  cases hparse'
  rcases horigin with hid | ⟨command, hplan, htool, -⟩
  · exact hid
  · -- a spliced asset is read when plan and tool are there
    obtain ⟨path, hpath⟩ := Toolbox.isAvailable_iff.1 htool
    rcases List.mem_cons.1 hstage with rfl | hlast
    · rw [failureAt, hplan] at hfails
      cases hfails
    · rw [List.mem_singleton.1 hlast, failureAt, hpath] at hfails
      cases hfails

end Service

/-! ## (5) Replies and reports -/

namespace Http

/-- **A request for a rendering**: it asks for the contents of the endpoint of transformations. -/
def Call.IsRendering (call : Call) : Prop :=
  call.method = "GET" ∧ endpoint? call.target.path = some .transformation

variable {s other : Service} {fresh : String} {call : Call} {e : Error}

/-- The reply to a request for a rendering. -/
theorem answer_of_isRendering (h : call.IsRendering) :
    answer s fresh call
      = reply s (identifier fresh call.identifier) call.target.pathAndQuery .transformation := by
  obtain ⟨hmethod, hendpoint⟩ := h
  simp only [answer, hmethod, hendpoint, String.reduceEq, if_false, if_true]

/-- The reply where rendering fails. -/
theorem answer_of_error (h : call.IsRendering)
    (hrender : s.render call.target.pathAndQuery = .error e) :
    answer s fresh call = failure (some (identifier fresh call.identifier)) e ∧
      hasNoReply s call = false := by
  constructor
  · rw [answer_of_isRendering h]
    simp only [reply, hrender]
  · simp only [hasNoReply, hrender, Bool.and_false]

/-- **Two services answer a request alike**: with one reply, or both with none. -/
def AnswerAlike (s other : Service) (call : Call) : Prop :=
  (∀ fresh, answer s fresh call = answer other fresh call) ∧
    hasNoReply s call = hasNoReply other call

/-- Services that fail in the same way for a path answer alike. -/
theorem answerAlike_of_error (h : s.render call.target.pathAndQuery = .error e)
    (hother : other.render call.target.pathAndQuery = .error e) : AnswerAlike s other call := by
  constructor
  · intro fresh
    unfold answer reply
    rw [h, hother]
  · simp only [hasNoReply, h, hother, Bool.and_false]

/-- Services over stores that agree on the names that are read answer alike. -/
theorem answerAlike_of_agree {assets : AssetStore}
    (h : ∀ n ∈ s.reads call.target.pathAndQuery, s.assets n = assets n) :
    AnswerAlike s { s with assets := assets } call :=
  ⟨fun _ => (answer_congr h).1, (@answer_congr s assets "" call h).2⟩

end Http

/-- **The first failing stage gives the answer, and nothing is read for a later one.** A request for
a rendering is answered with the error of the first of its stages that fail, and with a rendering if
none does. The errors of the path, the domain and the media type are of their own kinds, and spliced
assets are read in the order of the specs that name them. Where the path, the domain or the media
type fails, nothing is read and all services answer alike; where planning fails or the tool is
missing, the answer depends on no asset but that of the request. The command line, given the same
text, reports the error of the same stage. -/
theorem Service.first_failure_answers :
    (∀ (s : Service) (fresh : String) (call : Http.Call), call.IsRendering →
      match s.firstFailure call.target.pathAndQuery with
      | some (_, e) =>
        Http.answer s fresh call
            = Http.failure (some (Http.identifier fresh call.identifier)) e ∧
          Http.hasNoReply s call = false
      | none => ∃ rendered, s.render call.target.pathAndQuery = .ok rendered ∧
        Http.answer s fresh call = Http.ofRendered s.config.streamBufferChunks
          (Http.identifier fresh call.identifier) rendered) ∧
    (∀ (s : Service) (path : String) (e : Error),
      ((.path, e) ∈ s.failures path → ∃ reason, e = .malformedUrl reason) ∧
      ∀ r, Request.parse path = .ok r →
        ((.domain, e) ∈ s.failures path → e = .unsupportedType (r.domain.getD "")) ∧
        ((.mediaType, e) ∈ s.failures path → e = .unsupportedMedia r.asset.publicId)) ∧
    (∀ (s : Service) (chain : Chain) (command : Command), s.plan chain = .ok command →
      List.Forall₂ (fun spec name => Video.Contributes s.config spec (.splice name))
        (Video.ofGroup s.config .splice chain) command.splices) ∧
    (∀ (s : Service) (call : Http.Call) (stage : Stage) (e : Error),
      (stage, e) ∈ s.failures call.target.pathAndQuery →
      stage ∈ [Stage.path, .domain, .mediaType] →
      s.reads call.target.pathAndQuery = [] ∧ ∀ other : Service, Http.AnswerAlike s other call) ∧
    (∀ (s : Service) (call : Http.Call) (r : Request) (stage : Stage) (e : Error),
      Request.parse call.target.pathAndQuery = .ok r →
      (stage, e) ∈ s.failures call.target.pathAndQuery → stage ∈ [Stage.plan, .tool] →
      ∀ other : AssetStore, s.assets r.asset.publicId = other r.asset.publicId →
        Http.AnswerAlike s { s with assets := other } call) ∧
    ∀ (w : CommandLine.World) (config : Config) (url out fresh : String) (call : Http.Call)
      (stage : Stage) (e : Error),
      call.IsRendering → call.target.pathAndQuery = CommandLine.requestPath url →
      (CommandLine.serviceOf w config).firstFailure (CommandLine.requestPath url)
        = some (stage, e) →
      CommandLine.renderReport w config url out = (CommandLine.Failure.ofError e).report "" ∧
        Http.answer (CommandLine.serviceOf w config) fresh call
          = Http.failure (some (Http.identifier fresh call.identifier)) e := by
  refine ⟨fun s fresh call hcall => ?_, fun s path e => ⟨malformed_of_mem_failures,
      fun r hparse => ⟨unsupportedType_of_mem_failures hparse,
        unsupportedMedia_of_mem_failures hparse⟩⟩,
    fun s chain command h => Video.fills_splices.forall₂ rfl h,
    fun s call stage e h hstage => ?_, fun s call r stage e hparse h hstage other hsame => ?_,
    fun w config url out fresh call stage e hcall hpath hfirst => ?_⟩
  · cases hfirst : s.firstFailure call.target.pathAndQuery with
    | some failure => exact Http.answer_of_error hcall (render_of_firstFailure hfirst)
    | none =>
      obtain ⟨rendered, hrender⟩ := exists_render_of_firstFailure hfirst
      refine ⟨rendered, hrender, ?_⟩
      rw [Http.answer_of_isRendering hcall, Http.reply, hrender]
  · obtain ⟨hreads, e', hrender⟩ := unread_of_failure h hstage
    exact ⟨hreads, fun other => Http.answerAlike_of_error (hrender s) (hrender other)⟩
  · refine Http.answerAlike_of_agree fun n hn => ?_
    rw [eq_publicId_of_mem_reads h hstage hparse hn]
    exact hsame
  · have hrender := render_of_firstFailure hfirst
    constructor
    · unfold CommandLine.renderReport
      rw [hrender]
    · rw [← hpath] at hrender
      exact (Http.answer_of_error hcall hrender).1

/-- A domain, a media type and a missing asset that fail together, and a plan and a tool that do,
with a spliced asset that nobody reads. -/
theorem Service.first_failure_answers_sample :
    Service.sample.failures "/audio/upload/q_80/cat"
      = [(.domain, .unsupportedType "audio"), (.mediaType, .unsupportedMedia "cat"),
        (.source, .notFound "asset" "cat")] ∧
    Http.answer Service.sample "id" ⟨"GET", ⟨"/audio", "/audio/upload/q_80/cat"⟩, none⟩
      = Http.failure (some "id") (.unsupportedType "audio") ∧
    Http.AnswerAlike Service.sample
      { Service.sample with tools := .empty, assets := Storage.ofList [("cat", .bytes [1])] }
      ⟨"GET", ⟨"/audio", "/audio/upload/q_80/cat"⟩, none⟩ ∧
    Http.AnswerAlike { Service.sample with tools := .empty }
      { Service.sample with
        tools := .empty
        assets := Storage.ofList [("clip.mp4", .bytes [1]), ("b.mp4", .bytes [2])] }
      ⟨"GET", ⟨"/video", "/video/upload/c_fit,w_1/fl_splice,l_b.mp4/clip.mp4"⟩, none⟩ ∧
    CommandLine.renderReport (.ofKnown [] [] none) {} "http://host/audio/upload/q_80/cat" "out"
      = (CommandLine.Failure.ofError (.unsupportedType "audio")).report "" := by
  have hfailures : Service.sample.failures "/audio/upload/q_80/cat"
      = [(.domain, .unsupportedType "audio"), (.mediaType, .unsupportedMedia "cat"),
        (.source, .notFound "asset" "cat")] := by
    decide +kernel
  have hrequest : (Request.parse "/video/upload/c_fit,w_1/fl_splice,l_b.mp4/clip.mp4").map
      (·.asset.publicId) = .ok "clip.mp4" := by
    decide +kernel
  have hplan : (.plan, Params.missing "c_fit" "h") ∈
      { Service.sample with tools := .empty }.failures
        "/video/upload/c_fit,w_1/fl_splice,l_b.mp4/clip.mp4" := by
    decide +kernel
  have hcli : (CommandLine.serviceOf (.ofKnown [] [] none) {}).firstFailure
      (CommandLine.requestPath "http://host/audio/upload/q_80/cat")
        = some (.domain, .unsupportedType "audio") := by
    decide +kernel
  obtain ⟨hanswer, -, -, hsettled, hvideo, hworld⟩ := first_failure_answers
  refine ⟨hfailures, ?_, ?_, ?_, ?_⟩
  · have hfirst := hanswer Service.sample "id" ⟨"GET", ⟨"/audio", "/audio/upload/q_80/cat"⟩, none⟩
      ⟨rfl, by decide⟩
    rw [firstFailure, hfailures] at hfirst
    exact hfirst.1
  · exact (hsettled Service.sample ⟨"GET", ⟨"/audio", "/audio/upload/q_80/cat"⟩, none⟩ .domain _
      (by rw [hfailures]; exact List.mem_cons_self) (by decide)).2 _
  · cases hparse : Request.parse "/video/upload/c_fit,w_1/fl_splice,l_b.mp4/clip.mp4" with
    | error e =>
      rw [hparse] at hrequest
      cases hrequest
    | ok r =>
      rw [hparse] at hrequest
      have hid : r.asset.publicId = "clip.mp4" := Except.ok.inj hrequest
      refine hvideo _ ⟨"GET", ⟨"/video", _⟩, none⟩ r .plan _ hparse hplan (by decide) _ ?_
      rw [hid]
      rfl
  · exact (hworld (.ofKnown [] [] none) {} _ "out" "id"
      ⟨"GET", ⟨"/audio", "/audio/upload/q_80/cat"⟩, none⟩ .domain _ ⟨rfl, by decide⟩ rfl hcli).1

end MediaTransform
