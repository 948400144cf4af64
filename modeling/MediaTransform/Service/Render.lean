import MediaTransform.Image.Operation
import MediaTransform.Storage.Store
import MediaTransform.Stream.Transcode
import MediaTransform.Tool
import MediaTransform.Url.Path

/-! # Rendering: from a path to its result

A request goes through stages, and the first one that fails gives its error: the path is read, the
domain and the media type are settled, the asset is read, and then an image chain runs or a
transcode is prepared.

* **`Route`** — the domain and the media type of a request; `Route.ofRequest` settles both before
  anything is read.
* **`Service`** — limits, tools and assets.
* **`Service.prepare`** — a transcode: the plan, the tool and the spliced assets, in this order.
* **`Service.render`** — all stages of a path.
* **`Service.reads`** — the assets that a path can make the service read. -/

namespace MediaTransform

/-! ## (1) Routes -/

/-- **Which operations a request may use, and the media type of its asset.** -/
structure Route where
  domain : Domain
  mime : String
  deriving DecidableEq, Repr

/-- **The route of a domain text and an asset.** A request that names no domain has an empty one. -/
def Route.settle (domain : Option String) (asset : Asset) : Except Error Route := do
  let domain ← Domain.ofName (domain.getD "")
  match mimeOfId asset.publicId with
  | some mime => return ⟨domain, mime⟩
  | none => throw (.unsupportedMedia asset.publicId)

/-- The route of a request. -/
def Route.ofRequest (r : Request) : Except Error Route := Route.settle r.domain r.asset

/-! ## (2) Services -/

/-- **What requests are served with.** -/
structure Service where
  config : Config.Pipeline
  tools : Toolbox
  /-- What the tool at a path does. -/
  programAt : String → Program
  assets : AssetStore

/-- **The result of a request.** -/
inductive Rendered where
  | image (mime : String) (contents : Buffer)
  | video (mime : String) (job : Transcode)

/-- The media type of a result, which is that of the asset whatever the chain does. -/
def Rendered.mime : Rendered → String
  | image mime _ => mime
  | video mime _ => mime

/-- Whether the result can be passed on: a job needs a stream that can exist and memory for its
chunks. -/
def Rendered.canBeSent (capacity : Nat) : Rendered → Bool
  | image _ _ => true
  | video _ job => Sink.canExist capacity && !job.collapses

/-- The failure of a job that stops without an outcome. There is no message for it: a caller only
learns that there are no contents, and the wording is that of this library. -/
def collapseError : Error := .internal "the transcode stopped without an outcome"

/-- **The whole contents of a result**, of which a job's come through a stream with so many
chunks. -/
def Rendered.contents (capacity : Nat) (r : Rendered) : Except Error Buffer :=
  match r with
  | image _ contents => .ok contents
  | video _ job =>
    if r.canBeSent capacity then (job.received capacity).map .bytes else .error collapseError

namespace Service

/-- The command of a chain. -/
def plan (s : Service) (chain : Chain) : Except Error Command :=
  Video.plan (Video.registry s.config) chain

/-- The bytes of assets in the order of their names, up to the first one that cannot be read. -/
def load (assets : AssetStore) : List String → Except Error (List Bytes)
  | [] => .ok []
  | id :: rest =>
    match assets id with
    | .error e => .error e
    | .ok contents =>
      match load assets rest with
      | .error e => .error e
      | .ok loaded => .ok (contents.toBytes :: loaded)

/-- **A transcode ready to run**: the chain is planned, then the tool is found, then the spliced
assets are read. -/
def prepare (s : Service) (source : Bytes) (chain : Chain) (mime : String) :
    Except Error Transcode := do
  let command ← s.plan chain
  let path ← s.tools.require Toolbox.transcoder
  let splices ← load s.assets command.splices
  return {
    program := s.programAt path
    timeoutMillis := 1000 * s.config.videoTimeoutSecs
    chunkBytes := s.config.streamChunkBytes
    command := command
    primary := source
    splices := splices
    container := .ofMime mime }

/-- The result of a chain over a source. -/
def execute (s : Service) (route : Route) (source : Buffer) (chain : Chain) :
    Except Error Rendered :=
  match route.domain with
  | .image => (Image.run s.config source chain).map (.image route.mime)
  | .video => (s.prepare source.toBytes chain route.mime).map (.video route.mime)

/-- **The result of a chain over a stored asset.** -/
def fulfil (s : Service) (route : Route) (asset : Asset) (chain : Chain) :
    Except Error Rendered := do
  let source ← s.assets asset.publicId
  s.execute route source chain

/-- **All stages of a path.** -/
def render (s : Service) (path : String) : Except Error Rendered := do
  let request ← Request.parse path
  let route ← Route.ofRequest request
  s.fulfil route request.asset request.chain

/-- **The assets that a path can make the service read**, in the order of reading: none before the
route is settled, and spliced ones only when the plan and the tool are there. -/
def reads (s : Service) (path : String) : List String :=
  match Request.parse path with
  | .error _ => []
  | .ok request =>
    match Route.ofRequest request with
    | .error _ => []
    | .ok route =>
      request.asset.publicId ::
        match route.domain with
        -- an image chain works on its source alone
        | .image => []
        | .video =>
          match s.plan request.chain with
          | .error _ => []
          | .ok command => if s.tools.isAvailable Toolbox.transcoder then command.splices else []

end Service

end MediaTransform
