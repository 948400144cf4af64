/-! # Configuration

* **`Config`** — the settings of the server, the asset store, the external tools and the
  pipelines; every setting has a default.
* **`Config.warnings`** — settings that work but are probably not meant. -/

namespace MediaTransform

namespace Config

/-- Where the server listens. -/
structure Server where
  host : String := "0.0.0.0"
  port : Nat := 3000
  deriving DecidableEq, Repr

/-- Where the sources lie. -/
structure Storage where
  /-- The directory that public ids are resolved in. -/
  root : String := "uploads"
  deriving DecidableEq, Repr

/-- Where the external tools lie. -/
structure Tools where
  ffmpegPath : Option String := none
  deriving DecidableEq, Repr

/-- **The limits and defaults of the pipelines.** -/
structure Pipeline where
  /-- The longest time for a whole image chain. -/
  imageTimeoutSecs : Nat := 30
  /-- The longest time for a whole transcode. -/
  videoTimeoutSecs : Nat := 600
  /-- How many chunks of a stream may wait for their reader. -/
  streamBufferChunks : Nat := 16
  /-- The largest chunk of a stream, in bytes. -/
  streamChunkBytes : Nat := 64 * 1024
  /-- The JPEG quality where none is asked for. -/
  defaultImageQuality : Nat := 80
  /-- The video quality scale where none is asked for. -/
  defaultVideoQscale : Nat := 5
  /-- The blur radius where none is asked for. -/
  defaultBlurRadius : Nat := 10
  /-- The largest image, as width times height, that a resize may make. -/
  maxOutputPixels : Nat := 50000000
  deriving DecidableEq, Repr

end Config

/-- **The configuration of the program.** -/
structure Config where
  server : Config.Server := {}
  storage : Config.Storage := {}
  tools : Config.Tools := {}
  pipeline : Config.Pipeline := {}
  deriving DecidableEq, Repr

namespace Config

instance : Inhabited Config := ⟨{}⟩

/-- A warning when a condition holds. -/
def warnIf (condition : Bool) (text : String) : List String := if condition then [text] else []

/-- **The warnings of a configuration**, in the order of the settings. -/
def warnings (pathExists : String → Bool) (c : Config) : List String :=
  let p := c.pipeline
  warnIf (c.server.port = 0) "server.port is 0; a random port will be assigned" ++
  warnIf (!pathExists c.storage.root)
    ("storage.root " ++ c.storage.root ++ " does not exist; every asset lookup will fail") ++
  (match c.tools.ffmpegPath with
    | some path => warnIf (!pathExists path)
        ("tools.ffmpeg_path " ++ path ++ " does not exist; falling back to PATH")
    | none => []) ++
  warnIf (p.imageTimeoutSecs = 0)
    "pipeline.image_timeout_secs is 0; every image request will time out" ++
  warnIf (p.videoTimeoutSecs = 0)
    "pipeline.video_timeout_secs is 0; every video request will time out" ++
  warnIf (p.streamBufferChunks = 0) "pipeline.stream_buffer_chunks is 0; using 1" ++
  warnIf (p.streamChunkBytes < 1024)
    ("pipeline.stream_chunk_bytes " ++ toString p.streamChunkBytes ++
      " is very small; streaming will be slow") ++
  warnIf (p.maxOutputPixels = 0) "pipeline.max_output_pixels is 0; every resize will fail" ++
  warnIf (p.defaultImageQuality < 1 || 100 < p.defaultImageQuality)
    ("pipeline.default_image_quality " ++ toString p.defaultImageQuality ++
      " is outside 1..=100 and will be clamped")

end Config

end MediaTransform
