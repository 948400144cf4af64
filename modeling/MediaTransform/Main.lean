import MediaTransform.CommandLine.Report

/-! # The command line program

Reads what a run needs to know of the disk, lets the run report on it, and carries the report out:
the written file, the two texts and the exit code. -/

namespace MediaTransform

namespace Disk

open CommandLine

/-- The refusal that an error of the system stands for. -/
def refusal : IO.Error → FileError
  | .noFileOrDirectory .. => .missing
  | .inappropriateType _ code words => .ofCode code.toNat words
  | .invalidArgument _ code words => .ofCode code.toNat words
  | .permissionDenied _ code words => .ofCode code.toNat words
  | e => .other (toString e)

/-- The contents of the file at a path. -/
def read (path : String) : IO (Except FileError Buffer) := do
  try
    let contents ← IO.FS.readBinFile path
    return .ok (.bytes contents.toList)
  catch e => return .error (refusal e)

/-- Whether a path can be opened. -/
def isPresent (path : String) : IO Bool := do
  try
    let _ ← IO.FS.Handle.mk path .read
    return true
  catch _ => return false

/-- Why a file could not be written, if so. -/
def write (path : String) (contents : Buffer) : IO (Option FileError) := do
  try
    IO.FS.writeBinFile path ⟨contents.toBytes.toArray⟩
    return none
  catch e => return some (refusal e)

/-- The first path at which the search path has a tool. -/
def search (name : String) : IO (Option String) := do
  match ← IO.getEnv "PATH" with
  | none => return none
  | some directories =>
    (Text.fields ':' directories).findSomeM? fun directory => do
      let path := Path.join directory name
      return if ← isPresent path then some path else none

/-- The world of an invocation: its configuration file, the paths that its settings name and the
assets that it reads. -/
def look (i : Invocation) : IO World := do
  let known (paths : List String) : IO (List (String × Except FileError Buffer)) :=
    paths.mapM fun path => do return (path, ← read path)
  let files ← known i.config.toList
  let config := configOf (.ofKnown files [] none) i
  let present ← (config.storage.root :: config.tools.ffmpegPath.toList).filterM isPresent
  let transcoder ← search Toolbox.transcoder
  let assets ← known (assetPaths (.ofKnown files present transcoder) i)
  return .ofKnown (files ++ assets) present transcoder

/-- **Runs the program on its arguments.** A file that cannot be written makes the run fail. -/
def execute (arguments : List String) : IO UInt32 := do
  let world ←
    match Invocation.ofArguments arguments with
    | .ok i => look i
    | .error _ => pure (.ofKnown [] [] none)
  let report := run world arguments
  let refused ←
    match report.written with
    | some (path, contents) => write path contents
    | none => pure none
  let report :=
    if refused.isSome then run { world with writeError? := fun _ => refused } arguments else report
  IO.print report.output
  IO.eprint report.complaint
  return report.exitCode.toUInt32

end Disk

end MediaTransform

/-- The program. -/
def main (arguments : List String) : IO UInt32 := MediaTransform.Disk.execute arguments
