import MediaTransform.Config.Basic
import MediaTransform.Error
import MediaTransform.Json.Fields
import MediaTransform.Json.Number
import MediaTransform.Json.Reader
import MediaTransform.Json.Writer

/-! # Configuration files

* **`Config.toJson`** — the configuration with every setting.
* **`Config.ofJson?`** — the defaults overlaid with the settings that are given. A whole number
  must fit the width of its setting; nothing is wrapped or cut.
* **`Config.parse`** — the configuration of a text.
* **`Config.loadOrDefault`** — the configuration of a file, or the defaults. -/

namespace MediaTransform

namespace Config

/-! ## (1) Settings -/

/-- A setting that is given must be readable; one that is not has its default. -/
def setting {α : Type} (read : Json → Option α) (default : α) : Option Json → Option α
  | none => some default
  | some j => read j

/-- A natural number that fits in a number of bits. -/
def readNat (bits : Nat) : Json → Option Nat
  | .number n =>
    match n.toNat? with
    | some k => if k < 2 ^ bits then some k else none
    | none => none
  | _ => none

/-- A text, or `null` for none. -/
def readOptionalText : Json → Option (Option String)
  | .null => some none
  | j => j.text?.map some

/-! ## (2) Sections -/

/-- The server section as JSON. -/
def Server.toJson (s : Server) : Json :=
  Json.ofFields [("host", Json.ofText s.host), ("port", Json.ofNat s.port)]

/-- The server section over its defaults. -/
def Server.ofJson? (j : Json) : Option Server :=
  match j.record? ["host", "port"] with
  | some [host, port] => do
    let d : Server := {}
    return { host := ← setting Json.text? d.host host, port := ← setting (readNat 16) d.port port }
  | _ => none

/-- The storage section as JSON. -/
def Storage.toJson (s : Storage) : Json := Json.ofFields [("root", Json.ofText s.root)]

/-- The storage section over its defaults. -/
def Storage.ofJson? (j : Json) : Option Storage :=
  match j.record? ["root"] with
  | some [root] => do
    let d : Storage := {}
    return { root := ← setting Json.text? d.root root }
  | _ => none

/-- The tools section as JSON. -/
def Tools.toJson (t : Tools) : Json :=
  Json.ofFields [("ffmpeg_path", match t.ffmpegPath with
    | some path => Json.ofText path
    | none => .null)]

/-- The tools section over its defaults. -/
def Tools.ofJson? (j : Json) : Option Tools :=
  match j.record? ["ffmpeg_path"] with
  | some [path] => do
    let d : Tools := {}
    return { ffmpegPath := ← setting readOptionalText d.ffmpegPath path }
  | _ => none

/-- The names of the pipeline settings, in order. -/
def Pipeline.names : List String :=
  ["image_timeout_secs", "video_timeout_secs", "stream_buffer_chunks", "stream_chunk_bytes",
    "default_image_quality", "default_video_qscale", "default_blur_radius", "max_output_pixels"]

/-- The pipeline section as JSON. -/
def Pipeline.toJson (p : Pipeline) : Json :=
  Json.ofFields
    [("image_timeout_secs", Json.ofNat p.imageTimeoutSecs),
     ("video_timeout_secs", Json.ofNat p.videoTimeoutSecs),
     ("stream_buffer_chunks", Json.ofNat p.streamBufferChunks),
     ("stream_chunk_bytes", Json.ofNat p.streamChunkBytes),
     ("default_image_quality", Json.ofNat p.defaultImageQuality),
     ("default_video_qscale", Json.ofNat p.defaultVideoQscale),
     ("default_blur_radius", Json.ofNat p.defaultBlurRadius),
     ("max_output_pixels", Json.ofNat p.maxOutputPixels)]

/-- The pipeline section over its defaults. -/
def Pipeline.ofJson? (j : Json) : Option Pipeline :=
  match j.record? Pipeline.names with
  | some [imageTimeout, videoTimeout, buffer, chunk, quality, qscale, radius, pixels] => do
    let d : Pipeline := {}
    return {
      imageTimeoutSecs := ← setting (readNat 64) d.imageTimeoutSecs imageTimeout
      videoTimeoutSecs := ← setting (readNat 64) d.videoTimeoutSecs videoTimeout
      streamBufferChunks := ← setting (readNat 64) d.streamBufferChunks buffer
      streamChunkBytes := ← setting (readNat 64) d.streamChunkBytes chunk
      defaultImageQuality := ← setting (readNat 8) d.defaultImageQuality quality
      defaultVideoQscale := ← setting (readNat 32) d.defaultVideoQscale qscale
      defaultBlurRadius := ← setting (readNat 32) d.defaultBlurRadius radius
      maxOutputPixels := ← setting (readNat 64) d.maxOutputPixels pixels }
  | _ => none

/-! ## (3) The whole -/

/-- **The configuration as JSON.** -/
def toJson (c : Config) : Json :=
  Json.ofFields
    [("server", c.server.toJson), ("storage", c.storage.toJson), ("tools", c.tools.toJson),
     ("pipeline", c.pipeline.toJson)]

/-- **The configuration of a JSON record over the defaults.** -/
def ofJson? (j : Json) : Option Config :=
  match j.record? ["server", "storage", "tools", "pipeline"] with
  | some [server, storage, tools, pipeline] => do
    let d : Config := {}
    return {
      server := ← setting Server.ofJson? d.server server
      storage := ← setting Storage.ofJson? d.storage storage
      tools := ← setting Tools.ofJson? d.tools tools
      pipeline := ← setting Pipeline.ofJson? d.pipeline pipeline }
  | _ => none

/-- The configuration of a text. -/
def parse (text : String) : Except Error Config :=
  match (Json.parse? text).bind ofJson? with
  | some c => .ok c
  | none => .error (.validation "config parse error: not a configuration document")

/-- What a configuration file turns out to be. -/
inductive File where
  /-- No file is named. -/
  | unnamed
  /-- The named file cannot be read as text. -/
  | unreadable
  /-- The text of the file. -/
  | text (contents : String)

/-- **The configuration of a file**, and the defaults whenever the file gives none. -/
def loadOrDefault : File → Config
  | .unnamed => {}
  | .unreadable => {}
  | .text contents =>
    match parse contents with
    | .ok c => c
    | .error _ => {}

end Config

end MediaTransform
