import MediaTransform.CommandLine.Arguments
import MediaTransform.Config.Json
import MediaTransform.Http.Address
import MediaTransform.Http.Exchange
import MediaTransform.Media.Json
import MediaTransform.Storage.FileTree

/-! # What the command line reports

* **`World`** — what a run can see and do: files, tools and the network.
* **`Report`** — what a run leaves behind: its exit code, its texts and at most one written file.
* **`requestPath`** — the path of an address.
* **`CommandLine.run`** — the report of arguments.
* **`World.ofTree`**, **`World.ofKnown`** — worlds held in memory. -/

namespace MediaTransform

namespace CommandLine

/-! ## (1) Worlds and reports -/

/-- **What a run can see and do.** -/
structure World extends ToolWorld where
  read : FileReader
  /-- Why a file cannot be written, if so. -/
  writeError? : String → Option FileError
  /-- Why an address cannot be listened on, if so. -/
  listenError? : Http.Address → Option String

/-- **What a run leaves behind.** -/
structure Report where
  exitCode : Nat
  output : String := ""
  complaint : String := ""
  written : Option (String × Buffer) := none

/-- Why an action fails, and what lies under it. -/
structure Failure where
  message : String
  cause : Option String

/-- The failure of an error. -/
def Failure.ofError (e : Error) : Failure := ⟨e.message, e.cause⟩

/-- The wording of a failure. -/
def Failure.complaint (f : Failure) : String :=
  "Error: " ++ f.message ++ "\n" ++
    match f.cause with
    | some cause => "\nCaused by:\n    " ++ cause ++ "\n"
    | none => ""

/-- The report of a failure after some output. -/
def Failure.report (f : Failure) (output : String) : Report :=
  { exitCode := 1, output := output, complaint := f.complaint }

/-- The report of an action that went well. -/
def Report.fine (output : String) : Report := { exitCode := 0, output := output }

/-! ## (2) Settings -/

/-- The program's name. -/
def programName : String := "mediaforge"

/-- What a named configuration file turns out to be. -/
def configFile (w : World) : Option String → Config.File
  | none => .unnamed
  | some path =>
    match w.read path with
    | .error _ => .unreadable
    | .ok contents =>
      match Bytes.text? contents.toBytes with
      | some text => .text text
      | none => .unreadable

/-- **The configuration of an invocation**: that of the file, with the storage it asks for. -/
def configOf (w : World) (i : Invocation) : Config :=
  let config := Config.loadOrDefault (configFile w i.config)
  match i.storage with
  | some root => { config with storage := { root := root } }
  | none => config

/-- The tools of a configuration. -/
def toolsOf (w : World) (config : Config) : Toolbox := Toolbox.discover w.toToolWorld config.tools

/-- **The service of a configuration**, with the assets below its storage root. -/
def serviceOf (w : World) (config : Config) : Service where
  config := config.pipeline
  tools := toolsOf w config
  programAt := w.program
  assets := Storage.below w.read config.storage.root

/-! ## (3) Actions -/

/-- What stands between a scheme and a host. -/
def schemeMark : List Char := "://".toList

/-- The characters after the first mark of a scheme. -/
def afterSchemeMark? : List Char → Option (List Char)
  | [] => none
  | c :: cs =>
    if schemeMark.isPrefixOf (c :: cs) then some ((c :: cs).drop schemeMark.length)
    else afterSchemeMark? cs

/-- **The path of an address**: what follows the host, or the whole text where there is no
scheme. -/
def requestPath (url : String) : String :=
  match afterSchemeMark? url.toList with
  | none => url
  | some rest =>
    match rest.dropWhile (· ≠ '/') with
    | [] => "/"
    | path => String.ofList path

/-- A request in a few lines. -/
def describe (r : Request) : String :=
  "Domain: " ++ r.domain.getD "(none)" ++ "\nAsset: " ++ r.asset.publicId ++ "\n" ++
    (if r.chain.isEmpty then "No transformations\n" else "") ++
    String.join (r.chain.mapIdx fun i s => "  " ++ toString (i + 1) ++ ". " ++ s.display ++ "\n")

/-- **The report on a parsed address.** -/
def parseReport (url : String) (json : Bool) : Report :=
  match Request.parse (requestPath url) with
  | .error e => (Failure.ofError e).report ""
  | .ok r => .fine (if json then r.toJson.pretty ++ "\n" else describe r)

/-- The line on a written file. -/
def writtenLine (contents : Buffer) (mime path : String) : String :=
  "Wrote " ++ toString contents.toBytes.length ++ " bytes (" ++ mime ++ ") to " ++ path ++ "\n"

/-- **The report on a rendered address.** The file is written only when all its contents are
there. -/
def renderReport (w : World) (config : Config) (url path : String) : Report :=
  match (serviceOf w config).render (requestPath url) with
  | .error e => (Failure.ofError e).report ""
  | .ok rendered =>
    match rendered.contents config.pipeline.streamBufferChunks with
    | .error e => (Failure.ofError e).report ""
    | .ok contents =>
      match w.writeError? path with
      | some e => Failure.report ⟨"Failed to write " ++ path, some e.message⟩ ""
      | none =>
        { Report.fine (writtenLine contents rendered.mime path) with
          written := some (path, contents) }

/-- The line on a tool. -/
def toolLine (r : ToolReport) : String :=
  (if r.available then "✓ " else "✗ ") ++ r.name ++
  (match r.version with
    | some version => " (" ++ version ++ ")"
    | none => "") ++
  (match r.path with
    | some path => " - " ++ path
    | none => "") ++ "\n"

/-- **The report on the tools.** -/
def toolsReport (w : World) (config : Config) : Report :=
  let reports := (toolsOf w config).report w.toToolWorld
  .fine ("Checking external tools...\n\n" ++ String.join (reports.map toolLine) ++ "\n" ++
    if reports.all (·.available) then "All required tools are available!\n"
    else "ffmpeg is missing. Image transformations work; video requests will fail.\n")

/-- **The report on a configuration**, which fails when there are warnings. -/
def configReport (w : World) (path : Option String) (config : Config) : Report :=
  let first := match path with
    | some path => "Validating config: " ++ path ++ "\n"
    | none => "No config file given; validating defaults\n"
  match config.warnings w.pathExists with
  | [] => .fine (first ++ "Configuration is valid\n")
  | warnings =>
    Failure.report ⟨toString warnings.length ++ " configuration warning(s)", none⟩
      (first ++ String.join (warnings.map fun text => "  warning: " ++ text ++ "\n"))

/-- **The report on serving**, which ends well only when the server is told to stop. -/
def serveReport (w : World) (config : Config) (host : Option String) (port : Option Nat) :
    Report :=
  let host := host.getD config.server.host
  let port := port.getD config.server.port
  match Http.Address.ofHost host port with
  | .error e => (Failure.ofError e).report ""
  | .ok address =>
    match w.listenError? address with
    | none => .fine ""
    | some reason =>
      (Failure.ofError (.internal
        ("Failed to bind to " ++ host ++ ":" ++ toString port ++ ": " ++ reason))).report ""

/-- The line with the version. -/
def versionLine : String := programName ++ " " ++ version ++ "\n"

/-- **The report on an invocation.** -/
def perform (w : World) (i : Invocation) : Report :=
  let config := configOf w i
  match i.action with
  | .serve host port => serveReport w config host port
  | .parse url json => parseReport url json
  | .render url path => renderReport w config url path
  | .checkTools => toolsReport w config
  | .validate => configReport w i.config config
  | .version => .fine versionLine

/-- How the program is used. -/
def usage : String :=
  "Usage: " ++ programName ++ " [OPTIONS] <COMMAND>\n\nCommands:\n" ++
    String.join (forms.map fun form => "  " ++ form.name ++ "\n")

/-- **The report on arguments.** -/
def run (w : World) (arguments : List String) : Report :=
  match Invocation.ofArguments arguments with
  | .ok i => perform w i
  | .error .version => .fine versionLine
  | .error .help => .fine usage
  | .error .misuse => { exitCode := 2, complaint := usage }

/-! ## (4) Worlds -/

/-- The asset files that an invocation can make a run read. -/
def assetPaths (w : World) (i : Invocation) : List String :=
  let config := configOf w i
  match i.action with
  | .render url _ =>
    ((serviceOf w config).reads (requestPath url)).filterMap fun id =>
      (Storage.resolve config.storage.root id).toOption
  | _ => []

/-- **The world of what is known of a disk**: the files that were read, the paths that exist and the
transcoder that the search path leads to. No program can be started in it. -/
def World.ofKnown (files : List (String × Except FileError Buffer)) (present : List String)
    (transcoder : Option String) : World where
  pathExists := present.contains
  inSearchPath := fun name => if name = Toolbox.transcoder then transcoder else none
  program := fun _ _ _ => .refused "Operation not supported (os error 95)"
  read := fun path => (files.lookup path).getD (.error .missing)
  writeError? := fun _ => none
  listenError? := fun _ => some "Operation not supported (os error 95)"

/-- **The world of a tree of files** without a search path or a network. -/
def World.ofTree (t : FileTree) (programs : List (Place × Program)) : World where
  pathExists := t.exists?
  inSearchPath := fun _ => none
  program := t.program programs
  read := t.read
  writeError? := t.writeError?
  listenError? := fun _ => some "Operation not supported (os error 95)"

/-- **The tree after a run.** -/
def Report.apply (r : Report) (t : FileTree) : FileTree :=
  match r.written with
  | some (path, contents) => t.write path contents
  | none => t

end CommandLine

end MediaTransform
