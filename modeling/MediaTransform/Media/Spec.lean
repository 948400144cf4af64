import MediaTransform.Media.Params
import MediaTransform.Text.Split

/-! # Transformation specs and chains

* **`Spec`** — one transformation: a kind and its parameters.
* **`Spec.directive`** — the two halves of a kind such as `so_5`.
* **`Spec.display`** — the text of a spec as one path segment.
* **`Chain`** — specs in the order in which they are applied. -/

namespace MediaTransform

/-- **One transformation**: what to do, and with which parameters. -/
structure Spec where
  kind : String
  params : Params
  deriving DecidableEq

/-- Transformations in the order of application. -/
abbrev Chain := List Spec

namespace Spec

/-- **The kind before and after its first underscore**, if it has one. -/
def directive (s : Spec) : Option (String × String) := Text.cut? '_' s.kind

/-- One parameter as it stands in a segment. -/
def displayParam (key : String) (v : Value) : String := key ++ "_" ++ v.display

/-- **The segment of a path that spells this spec**: the kind, then each parameter after a
comma, in key order. -/
def display (s : Spec) : String :=
  s.params.entries.foldl (fun text e => text ++ "," ++ displayParam e.1 e.2) s.kind

end Spec

end MediaTransform
