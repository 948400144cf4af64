import MediaTransform.Storage.File
import MediaTransform.Storage.Path
import MediaTransform.Stream.Child

/-! # Trees of files

A tree of directories and files held in memory, with the rules by which a system finds a path in
it. It stands for a disk wherever a whole program is tried out.

* **`FileTree`** — the entries by their place, and where relative paths begin.
* **`FileTree.find`** — the entry that a path leads to, or why it leads nowhere.
* **`FileTree.read`**, **`exists?`**, **`writeError?`**, **`write`**, **`program`** — what can be done
  with a path. -/

namespace MediaTransform

/-- A place in a tree: the names from the root on. -/
abbrev Place := List String

/-- **A tree of directories and files.** All directories above an entry exist. -/
structure FileTree where
  files : List (Place × Buffer)
  directories : List Place
  /-- The directory in which relative paths begin. -/
  current : Place

namespace FileTree

/-- What is at a place. -/
inductive Node where
  | directory
  | file (contents : Buffer)

/-- Whether a place is above another one, or is it. -/
def isAbove (upper lower : Place) : Bool := upper.isPrefixOf lower

/-- **What is at a place.** -/
def node? (t : FileTree) (place : Place) : Option Node :=
  match t.files.lookup place with
  | some contents => some (.file contents)
  | none =>
    if t.directories.any (isAbove place) || isAbove place t.current ||
        t.files.any (isAbove place ·.1) then some .directory
    else none

/-- Whether a place is a directory. -/
def isDirectory (t : FileTree) (place : Place) : Bool :=
  match t.node? place with
  | some .directory => true
  | _ => false

/-- The longest name, in bytes. -/
def nameLimit : Nat := 255

/-- The longest path, in bytes. -/
def pathLimit : Nat := 4095

/-- **Where the fields of a path lead from a place**: every field but the last needs a directory in
front of it, and so do empty fields and dots. -/
def follow (t : FileTree) : Place → List String → Except FileError Place
  | place, [] => .ok place
  | place, field :: rest =>
    if !t.isDirectory place then .error .notDirectory
    else if field = "" ∨ field = "." then follow t place rest
    else if field = ".." then follow t place.dropLast rest
    else if nameLimit < field.utf8ByteSize then .error .nameTooLong
    else if (t.node? (place ++ [field])).isSome then follow t (place ++ [field]) rest
    else .error .missing

/-- The place where a path begins. -/
def base (t : FileTree) (path : String) : Place :=
  if path.toList.head? = some '/' then [] else t.current

/-- **The place that a path leads to.** -/
def find (t : FileTree) (path : String) : Except FileError Place :=
  if path.toList.contains '\x00' then .error .nulInName
  else if path = "" then .error .missing
  else if pathLimit < path.utf8ByteSize then .error .nameTooLong
  else follow t (t.base path) (Text.fields '/' path)

/-- Whether a path leads anywhere. -/
def exists? (t : FileTree) (path : String) : Bool :=
  match t.find path with
  | .ok _ => true
  | .error _ => false

/-- **The contents of the file at a path.** -/
def read (t : FileTree) : FileReader := fun path =>
  match t.find path with
  | .error e => .error e
  | .ok place =>
    match t.node? place with
    | some (.file contents) => .ok contents
    | some .directory => .error .isDirectory
    | none => .error .missing

/-- **Where a file with a path is or would be**: its directory must exist, and no path of a file ends
with a slash or leads to a directory. -/
def target (t : FileTree) (path : String) : Except FileError Place :=
  if path.toList.contains '\x00' then .error .nulInName
  else if path = "" then .error .missing
  else if pathLimit < path.utf8ByteSize then .error .nameTooLong
  else
    let fields := Text.fields '/' path
    let names := (fields.reverse.dropWhile (· = "")).reverse
    let name := names.getLast?.getD "."
    if name = "." ∨ name = ".." then
      match follow t (t.base path) names with
      | .error e => .error e
      | .ok place => .error (if t.isDirectory place then .isDirectory else .notDirectory)
    else
      match follow t (t.base path) names.dropLast with
      | .error e => .error e
      | .ok place =>
        if !t.isDirectory place then .error .notDirectory
        else if names.length < fields.length then .error .isDirectory
        else if nameLimit < name.utf8ByteSize then .error .nameTooLong
        else if t.isDirectory (place ++ [name]) then .error .isDirectory
        else .ok (place ++ [name])

/-- Why a file with a path cannot be written, if so. -/
def writeError? (t : FileTree) (path : String) : Option FileError :=
  match t.target path with
  | .ok _ => none
  | .error e => some e

/-- **The tree with a file written.** -/
def write (t : FileTree) (path : String) (contents : Buffer) : FileTree :=
  match t.target path with
  | .ok place => { t with files := (place, contents) :: t.files.filter (·.1 != place) }
  | .error _ => t

/-- **What the programs of a tree do**, by the paths that they are started with: a name without a
slash is not looked for in the tree, and neither a directory nor a file that is no program can be
started. -/
def program (t : FileTree) (programs : List (Place × Program)) (path : String) : Program :=
  fun arguments files =>
    if path.toList.contains '\x00' then .refused "nul byte found in provided data"
    else if !path.toList.contains '/' then .refused FileError.missing.message
    else
      match t.find path with
      | .error e => .refused e.message
      | .ok place =>
        match programs.lookup place with
        | some p => p arguments files
        | none => .refused FileError.denied.message

end FileTree

end MediaTransform
