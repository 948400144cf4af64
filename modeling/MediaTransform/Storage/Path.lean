import MediaTransform.Text.Split

/-! # Paths

* **`Path.components`** — what a path consists of: names between slashes, the parent `..`, and at
  the start perhaps the root or the current directory. Repeated slashes and later dots stand for
  nothing.
* **`Path.join`** — a relative path below another one.
* **`Path.descend`** — where components lead without looking at any directory. -/

namespace MediaTransform

namespace Path

/-- **One component of a path.** -/
inductive Component where
  | root
  | here
  | parent
  | name (text : String)
  deriving DecidableEq, Repr

/-- Whether a component is a plain name. -/
def Component.isName : Component → Bool
  | name _ => true
  | _ => false

/-- The component of a field after the first one; empty fields and dots stand for nothing. -/
def componentOf? (field : String) : Option Component :=
  if field = "" ∨ field = "." then none
  else if field = ".." then some .parent
  else some (.name field)

/-- The components of the fields between slashes. -/
def ofFields : List String → List Component
  | [] => []
  | first :: rest =>
    let start : List Component :=
      if first = "" then (if rest.isEmpty then [] else [.root])
      else if first = "." then [.here]
      else (componentOf? first).toList
    start ++ rest.filterMap componentOf?

/-- **The components of a path.** -/
def components (path : String) : List Component := ofFields (Text.fields '/' path)

/-- **A relative path below a directory**, with one slash between them unless the directory ends
with one or is empty. -/
def join (directory relative : String) : String :=
  if directory = "" ∨ directory.toList.getLast? = some '/' then directory ++ relative
  else directory ++ "/" ++ relative

/-- **Where components lead from a directory**, given by its names from the root on. The parent of
the root is the root. -/
def descend : List String → List Component → List String
  | place, [] => place
  | _, .root :: rest => descend [] rest
  | place, .here :: rest => descend place rest
  | place, .parent :: rest => descend place.dropLast rest
  | place, .name text :: rest => descend (place ++ [text]) rest

end Path

end MediaTransform
