import MediaTransform.Http.Target
import MediaTransform.Json.Writer
import MediaTransform.Service.Render

/-! # Requests and replies

* **`Http.Call`** — a request: its method, its target and the identifier that it brings.
* **`Http.Reply`** — status, headers and body.
* **`Http.identifier`** — the identifier under which a request runs.
* **`Http.answer`** — the reply of a service to a request; **`Http.hasNoReply`** — the requests that
  have none. -/

namespace MediaTransform

/-- The version of this program. -/
def version : String := "0.1.0"

namespace Http

/-! ## (1) Requests -/

/-- **A request.** -/
structure Call where
  method : String
  target : Target
  /-- The value of the header with the identifier. -/
  identifier : Option Bytes := none

/-- Whether bytes may be the value of a header. -/
def isHeaderValue (b : Bytes) : Bool := b.all fun x => x = 9 || (32 ≤ x && x ≠ 127)

/-- Whether a byte can be shown: a tab, a blank or a visible character of ASCII. -/
def isShown (b : UInt8) : Bool := b = 9 || (32 ≤ b && b < 127)

/-- **The identifier of a request**: the one it brings if it is not empty and can be shown, else a
fresh one. -/
def identifier (fresh : String) (brought : Option Bytes) : String :=
  match brought with
  | none => fresh
  | some b =>
    if b ≠ [] ∧ b.all isShown then String.ofList (b.map fun x => Char.ofNat x.toNat) else fresh

/-! ## (2) Replies -/

/-- **The body of a reply.** -/
inductive Body where
  | empty
  | json (document : Json)
  | media (contents : Buffer)
  /-- The output of a job through a stream in which so many chunks may wait. -/
  | stream (job : Transcode) (capacity : Nat)

/-- **What a client gets that reads a body to its end**, or why the body breaks off. -/
def Body.received : Body → Except Error Buffer
  | empty => .ok (.bytes [])
  | json document => .ok (.bytes (Bytes.ofText document.compact))
  | media contents => .ok contents
  | stream job capacity => (job.received capacity).map .bytes

/-- **A reply.** -/
structure Reply where
  status : Nat
  contentType : Option String := none
  /-- The methods that a route allows, where a request asks for them or uses another one. -/
  allow : Option String := none
  identifier : Option String := none
  body : Body := .empty

/-- The media type of JSON documents. -/
def jsonType : String := "application/json"

/-- **The reply to a request that fails.** -/
def failure (identifier : Option String) (e : Error) : Reply :=
  { status := e.status
    contentType := some jsonType
    identifier := identifier
    body := .json (Json.ofFields
      [("code", Json.ofText e.code), ("error", Json.ofText e.message),
        ("request_id", match identifier with
          | some id => Json.ofText id
          | none => .null)]) }

/-- The reply of a result. -/
def ofRendered (capacity : Nat) (id : String) (r : Rendered) : Reply :=
  { status := 200
    contentType := some r.mime
    identifier := some id
    body := match r with
      | .image _ contents => .media contents
      | .video _ job => if job.collapses then .empty else .stream job capacity }

/-! ## (3) Routes -/

/-- **What a path leads to.** -/
inductive Endpoint where
  | health
  | transformation
  deriving DecidableEq, Repr

/-- **The endpoint of a path**: the health check has a path of its own, and every other one that
begins with a slash and goes on is a transformation. -/
def endpoint? (path : String) : Option Endpoint :=
  if path = "/health" then some .health
  else if path.toList.head? = some '/' ∧ path ≠ "/" then some .transformation
  else none

/-- The reply of the health check. -/
def healthReply (id : String) : Reply :=
  { status := 200
    contentType := some jsonType
    identifier := some id
    body := .json (Json.ofFields [("status", Json.ofText "ok"), ("version", Json.ofText version)]) }

/-- **The reply of an endpoint to a request for its contents.** -/
def reply (s : Service) (id : String) (pathAndQuery : String) : Endpoint → Reply
  | .health => healthReply id
  | .transformation =>
    match s.render pathAndQuery with
    | .ok rendered => ofRendered s.config.streamBufferChunks id rendered
    | .error e => failure (some id) e

/-- The methods that every endpoint has. -/
def allowed : String := "GET,HEAD"

/-- The reply to a browser that asks what it may send; it runs under no identifier. -/
def preflight (endpoint : Option Endpoint) : Reply :=
  { status := 200, allow := endpoint.map fun _ => allowed }

/-- **Whether a request has no reply at all**: it asks for a stream that cannot exist. -/
def hasNoReply (s : Service) (call : Call) : Bool :=
  !Sink.canExist s.config.streamBufferChunks &&
    ["GET", "HEAD"].contains call.method &&
    endpoint? call.target.path == some .transformation &&
    match s.render call.target.pathAndQuery with
    | .ok (.video _ _) => true
    | _ => false

/-- **The reply of a service to a request** that has one. -/
def answer (s : Service) (fresh : String) (call : Call) : Reply :=
  let id := identifier fresh call.identifier
  let endpoint := endpoint? call.target.path
  -- browsers are answered before routing, so also for paths that lead nowhere
  if call.method = "OPTIONS" then preflight endpoint
  else
    match endpoint with
    | none => { status := 404, identifier := some id }
    | some endpoint =>
      if call.method = "GET" then reply s id call.target.pathAndQuery endpoint
      else if call.method = "HEAD" then
        { reply s id call.target.pathAndQuery endpoint with body := .empty }
      else { status := 405, allow := some allowed, identifier := some id }

end Http

end MediaTransform
