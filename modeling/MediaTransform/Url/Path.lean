import MediaTransform.Media.Asset
import MediaTransform.Media.Spec
import MediaTransform.Url.Coerce

/-! # Transformation paths

A path reads `/domain/upload/spec/…/spec/id?query`.

* **`Request`** — the domain text, the asset and the chain that a path names.
* **`Spec.ofSegment?`** — the spec of one segment `kind,key_value,…`.
* **`Request.parse`** — the request of a path, or the reason why it names none. -/

namespace MediaTransform

/-- The segment between the domain and the chain. -/
def delimiter : String := "upload"

/-- **What a path asks for.** -/
structure Request where
  domain : Option String
  asset : Asset
  chain : Chain
  deriving DecidableEq

/-! ## (1) Segments -/

/-- The key and the value of one parameter token; a token without `_` is a key with an empty
value. -/
def parameterOfToken (token : String) : String × Value :=
  match Text.cut? '_' token with
  | some (key, raw) => (key, coerce raw)
  | none => (token, coerce "")

/-- **The spec of a segment**: the text before the first comma is the kind, the rest are
parameter tokens, of which the last with a key counts. Nothing when the kind is empty. -/
def Spec.ofSegment? (segment : String) : Option Spec :=
  match Text.fields ',' segment with
  | [] => none
  | kind :: tokens =>
    if kind = "" then none
    else some ⟨kind, Dictionary.ofList (tokens.map parameterOfToken)⟩

/-- Whether a segment is read as a transformation at all. -/
def hasUnderscore (segment : String) : Bool := segment.toList.contains '_'

/-- The specs of the segments between the delimiter and the id; those without an underscore or
without a kind are passed over. -/
def Chain.ofSegments (segments : List String) : Chain :=
  segments.filterMap fun s => if hasUnderscore s then Spec.ofSegment? s else none

/-! ## (2) Paths -/

/-- The path before its first question mark. -/
def withoutQuery (raw : String) : String :=
  match Text.cut? '?' raw with
  | some (path, _) => path
  | none => raw

/-- The segments before and after the first one that equals the delimiter. -/
def splitAtDelimiter : List String → Option (List String × List String)
  | [] => none
  | s :: rest =>
    if s = delimiter then some ([], rest)
    else match splitAtDelimiter rest with
      | some (before, after) => some (s :: before, after)
      | none => none

/-- **The request of a path.** -/
def Request.parse (raw : String) : Except Error Request :=
  match splitAtDelimiter (Text.fields '/' (withoutQuery raw)) with
  | none => .error (.malformedUrl ("no '" ++ delimiter ++ "' segment in " ++ raw))
  | some (before, after) =>
    match after.getLast? with
    | none => .error (.malformedUrl ("no asset named after '" ++ delimiter ++ "' in " ++ raw))
    | some id =>
      if id = "" then .error (.malformedUrl ("empty asset id in " ++ raw))
      else .ok
        { domain := before.getLast?.filter (· ≠ "")
          asset := ⟨id⟩
          chain := Chain.ofSegments after.dropLast }

end MediaTransform
