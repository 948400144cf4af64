import MediaTransform.Error
import MediaTransform.Number.Shortest

/-! # Commands: what one transcode does

* **`Container`** — the output format, chosen by the media type of the source.
* **`Command`** — seek, duration, filters, spliced inputs and output options, collected by pure
  updates.
* **`Command.arguments?`** — the argument list for given input paths.
* **`Command.filterGraph`** — the graph that joins all inputs and then filters. -/

namespace MediaTransform

/-! ## (1) Containers -/

/-- **The container of the output.** What cannot be rewound is written in fragments. -/
inductive Container where
  | fragmentedMp4
  | webm
  | fragmentedMov
  | matroska
  deriving DecidableEq, Repr

namespace Container

/-- The container for a media type. -/
def ofMime (mime : String) : Container :=
  if mime = "video/mp4" then .fragmentedMp4
  else if mime = "video/webm" then .webm
  else if mime = "video/quicktime" then .fragmentedMov
  else .matroska

/-- The name of the muxer. -/
def muxer : Container → String
  | fragmentedMp4 => "mp4"
  | webm => "webm"
  | fragmentedMov => "mov"
  | matroska => "matroska"

/-- The arguments after the name of the muxer. -/
def muxerArguments : Container → List String
  | fragmentedMp4 | fragmentedMov => ["-movflags", "frag_keyframe+empty_moov+default_base_moof"]
  | webm | matroska => []

end Container

/-! ## (2) Commands -/

/-- **The description of one transcode.** -/
structure Command where
  /-- Where in the primary input to begin, in seconds. -/
  seek : Option Number := none
  /-- How long the output may be, in seconds. -/
  duration : Option Number := none
  /-- The video filters, in order. -/
  filters : List String := []
  /-- The assets joined after the primary input, in order. -/
  splices : List String := []
  /-- Output options: distinct flags in the order in which they were first set. -/
  options : List (String × String) := []
  deriving DecidableEq

instance : Inhabited Command := ⟨{}⟩

namespace Command

/-- The options with a flag set; a flag that is there keeps its place. -/
def setOption (flag value : String) : List (String × String) → List (String × String)
  | [] => [(flag, value)]
  | (f, v) :: rest => if f = flag then (f, value) :: rest else (f, v) :: setOption flag value rest

/-- The command that begins at `seconds`. -/
def withSeek (c : Command) (seconds : Number) : Command := { c with seek := some seconds }

/-- The command that ends after `seconds`. -/
def withDuration (c : Command) (seconds : Number) : Command := { c with duration := some seconds }

/-- The command with one more filter, after all others. -/
def withFilter (c : Command) (filter : String) : Command :=
  { c with filters := c.filters ++ [filter] }

/-- The command with one more asset, after all others. -/
def withSplice (c : Command) (id : String) : Command := { c with splices := c.splices ++ [id] }

/-- The command with an output option. -/
def withOption (c : Command) (flag value : String) : Command :=
  { c with options := setOption flag value c.options }

/-- The number of inputs: the primary one and the spliced ones. -/
def inputCount (c : Command) : Nat := 1 + c.splices.length

/-! ## (3) Arguments -/

/-- Filters with commas between them. -/
def joinFilters (filters : List String) : String := String.intercalate "," filters

/-- The two pads of an input. -/
def inputPads (index : Nat) : String :=
  "[" ++ toString index ++ ":v][" ++ toString index ++ ":a]"

/-- The label of the joined video. -/
def joinedVideo : String := "[cv]"

/-- The label of the joined audio. -/
def joinedAudio : String := "[ca]"

/-- The label of the filtered video. -/
def filteredVideo : String := "[outv]"

/-- The label of the video that is written. -/
def videoLabel (c : Command) : String := if c.filters.isEmpty then joinedVideo else filteredVideo

/-- **The graph for several inputs**: all are joined, then the filters run on the joined video. -/
def filterGraph (c : Command) : String :=
  String.join ((List.range c.inputCount).map inputPads) ++
    "concat=n=" ++ toString c.inputCount ++ ":v=1:a=1" ++ joinedVideo ++ joinedAudio ++
    (if c.filters.isEmpty then ""
      else ";" ++ joinedVideo ++ joinFilters c.filters ++ filteredVideo)

/-- The arguments for the inputs; the seek applies to the first one. -/
def inputArguments (c : Command) (inputs : List String) : List String :=
  (match c.seek with
    | some seconds => ["-ss", seconds.text]
    | none => []) ++
  inputs.flatMap fun path => ["-i", path]

/-- The arguments for filtering and joining. -/
def filterArguments (c : Command) : List String :=
  if c.splices.isEmpty then
    if c.filters.isEmpty then [] else ["-vf", joinFilters c.filters]
  else
    ["-filter_complex", c.filterGraph, "-map", c.videoLabel, "-map", joinedAudio]

/-- The arguments for the output, which goes to standard output. -/
def outputArguments (c : Command) (container : Container) : List String :=
  (match c.duration with
    | some seconds => ["-t", seconds.text]
    | none => []) ++
  (c.options.flatMap fun o => [o.1, o.2]) ++
  ["-f", container.muxer] ++ container.muxerArguments ++ ["pipe:1"]

/-- The arguments of every call. -/
def commonArguments : List String := ["-hide_banner", "-loglevel", "error", "-nostdin"]

/-- **The argument list for the given input paths**, one for each input. -/
def arguments? (c : Command) (inputs : List String) (container : Container) :
    Except Error (List String) :=
  if inputs.length = c.inputCount then
    .ok (commonArguments ++ c.inputArguments inputs ++ c.filterArguments ++
      c.outputArguments container)
  else .error (.internal ("ffmpeg command expects " ++ toString c.inputCount ++ " inputs, got " ++
    toString inputs.length))

/-- **A command on one line.** -/
def display (c : Command) : String :=
  "ffmpeg" ++
  (match c.seek with
    | some seconds => " ss=" ++ seconds.text
    | none => "") ++
  (match c.duration with
    | some seconds => " t=" ++ seconds.text
    | none => "") ++
  (if c.filters.isEmpty then "" else " vf=" ++ joinFilters c.filters) ++
  String.join (c.splices.map (" " ++ "+" ++ ·)) ++
  String.join (c.options.map fun o => " " ++ o.1 ++ "=" ++ o.2)

end Command

end MediaTransform
