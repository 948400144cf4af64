import MediaTransform.Config.Basic
import MediaTransform.Error
import MediaTransform.Stream.Child
import MediaTransform.Text.Split

/-! # External tools

* **`Toolbox`** — the tools that were found, with their paths.
* **`Toolbox.discover`** — looks for the configured tool first and then in the search path.
* **`Toolbox.require`** — a tool, or the error that it is missing.
* **`Toolbox.report`** — what is known of every tool that the program can use. -/

namespace MediaTransform

/-- **What the tools are looked for in**: the paths that exist, the search path by tool name, and
what each path does when it is started. -/
structure ToolWorld where
  pathExists : String → Bool
  inSearchPath : String → Option String
  program : String → Program

/-- **The tools that were found**, by name. -/
structure Toolbox where
  paths : List (String × String)
  deriving DecidableEq, Repr

/-- What is known of one tool. -/
structure ToolReport where
  name : String
  /-- The first line that the tool prints about its version. -/
  version : Option String
  path : Option String
  deriving DecidableEq, Repr

namespace ToolReport

/-- Whether the tool was found. -/
def available (r : ToolReport) : Bool := r.path.isSome

end ToolReport

namespace Toolbox

/-- The tool that transcodes. -/
def transcoder : String := "ffmpeg"

/-- The names of the tools that the program can use. -/
def known : List String := [transcoder]

/-- No tools. -/
def empty : Toolbox := ⟨[]⟩

/-- The path of a known tool: the configured one if it exists, else that in the search path. -/
def locate (w : ToolWorld) (config : Config.Tools) (name : String) : Option String :=
  match if name = transcoder then config.ffmpegPath else none with
  | some path => if w.pathExists path then some path else w.inSearchPath name
  | none => w.inSearchPath name

/-- **The known tools that can be found.** -/
def discover (w : ToolWorld) (config : Config.Tools) : Toolbox :=
  ⟨known.filterMap fun name => (locate w config name).map fun path => (name, path)⟩

/-- Whether a tool was found. -/
def isAvailable (b : Toolbox) (name : String) : Bool := (b.paths.lookup name).isSome

/-- **The path of a tool.** -/
def require (b : Toolbox) (name : String) : Except Error String :=
  match b.paths.lookup name with
  | some path => .ok path
  | none => .error (.tool name (name ++ " not found; is it installed and in PATH?"))

/-- The first line of an output, without a line break. -/
def firstLine (text : String) : Option String :=
  match Text.fields '\n' text with
  | [] => none
  | [""] => none
  | line :: rest =>
    let cs := line.toList
    if rest ≠ [] ∧ cs.getLast? = some '\r' then some (String.ofList cs.dropLast) else some line

/-- The version that a program prints, if it can be started and ends well. -/
def versionOf (program : Program) : Option String :=
  match Program.launch program ["-version"] [] with
  | .child c => if c.ending.isSuccess then firstLine (Bytes.lossyText c.output) else none
  | .refused _ => none

/-- **What is known of every tool that the program can use.** -/
def report (w : ToolWorld) (b : Toolbox) : List ToolReport :=
  known.map fun name =>
    match b.paths.lookup name with
    | some path => ⟨name, versionOf (w.program path), some path⟩
    | none => ⟨name, none, none⟩

end Toolbox

end MediaTransform
