import MediaTransform.Storage.File
import MediaTransform.Storage.Path
import MediaTransform.Text.Quoted

/-! # The asset store

* **`AssetStore`** — reading assets by their public ids.
* **`Storage.resolve`** — the file of a public id below a root directory. Only ids made of plain
  names are taken, so that no id leads out of the root.
* **`Storage.below`** — the store of the files below a root.
* **`Storage.ofList`** — the store of given assets. -/

namespace MediaTransform

/-- **Reading assets by their public ids.** -/
abbrev AssetStore := String → Except Error Buffer

namespace Storage

/-- Whether a public id names a file below any root: it is not empty, has no backslash, and is made
of plain names. -/
def isPlain (id : String) : Bool :=
  id != "" && !id.toList.contains '\\' && (Path.components id).all Path.Component.isName

/-- **The file of a public id** below a root directory. -/
def resolve (root id : String) : Except Error String :=
  if isPlain id then .ok (Path.join root id)
  else .error (.validation ("Invalid asset id: " ++ Text.quoted id))

/-- The error of an asset that does not exist. -/
def absent (id : String) : Error := .notFound "asset" id

/-- **The store of the files below a root.** -/
def below (read : FileReader) (root : String) : AssetStore := fun id =>
  match resolve root id with
  | .error e => .error e
  | .ok path =>
    match read path with
    | .ok contents => .ok contents
    | .error .missing => .error (absent id)
    | .error e => .error (.io e.message)

/-- **The store of given assets.** -/
def ofList (assets : List (String × Buffer)) : AssetStore := fun id =>
  match assets.lookup id with
  | some contents => .ok contents
  | none => .error (absent id)

theorem resolve_eq_ok_iff (root id path : String) :
    resolve root id = .ok path ↔ isPlain id = true ∧ path = Path.join root id := by
  unfold resolve
  by_cases h : isPlain id = true
  · rw [if_pos h, Except.ok.injEq]
    exact ⟨fun e => ⟨h, e.symm⟩, fun c => c.2.symm⟩
  · rw [if_neg h]
    constructor
    · intro e
      cases e
    · intro c
      exact absurd c.1 h

end Storage

end MediaTransform
