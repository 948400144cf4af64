import MediaTransform.Error
import MediaTransform.Text.Split

/-! # Stored assets, their media types and the two domains

* **`Asset`** — the name of a stored source, whose bytes live elsewhere; `Asset.extension` reads
  its file extension.
* **`mimeOfExtension`** — the table of known media types; `mimeOfId` looks an id up in it.
* **`Domain`** — images or videos: which operations a request may use. -/

namespace MediaTransform

/-! ## (1) Assets -/

/-- **A stored source**, by its public id. -/
structure Asset where
  publicId : String
  deriving DecidableEq, Repr

/-- ASCII letters in lower case, all other characters as they are. -/
def lowerAscii (s : String) : String := String.ofList (s.toList.map Char.toLower)

/-- **The extension in lower case**: what follows the last dot, where text stands on both sides
of it. -/
def Asset.extension (a : Asset) : Option String :=
  match Text.cutLast? '.' a.publicId with
  | some (stem, ext) => if stem = "" ∨ ext = "" then none else some (lowerAscii ext)
  | none => none

/-! ## (2) Media types -/

/-- **The media type of an extension in lower case.** -/
def mimeOfExtension : String → Option String
  | "jpg" | "jpeg" | "jpe" => some "image/jpeg"
  | "png" => some "image/png"
  | "gif" => some "image/gif"
  | "webp" => some "image/webp"
  | "bmp" => some "image/bmp"
  | "tif" | "tiff" => some "image/tiff"
  | "ico" => some "image/x-icon"
  | "avif" => some "image/avif"
  | "mp4" | "m4v" => some "video/mp4"
  | "mkv" => some "video/x-matroska"
  | "webm" => some "video/webm"
  | "avi" => some "video/x-msvideo"
  | "mov" => some "video/quicktime"
  | "ts" | "m2ts" => some "video/mp2t"
  | "mpeg" | "mpg" => some "video/mpeg"
  | "ogv" => some "video/ogg"
  | "flv" => some "video/x-flv"
  | "m4a" => some "audio/mp4"
  | "mp3" => some "audio/mpeg"
  | "flac" => some "audio/flac"
  | "wav" => some "audio/wav"
  | _ => none

/-- **The media type of a public id**: that of the text after its last dot, in any case. -/
def mimeOfId (id : String) : Option String :=
  match Text.cutLast? '.' id with
  | some (_, ext) => mimeOfExtension (lowerAscii ext)
  | none => none

/-! ## (3) Domains -/

/-- **A media domain**, which selects the operations of a request. -/
inductive Domain where
  | image
  | video
  deriving DecidableEq, Repr

namespace Domain

/-- The name of a domain. -/
def name : Domain → String
  | image => "image"
  | video => "video"

/-- The domain of exactly this name. -/
def ofName (s : String) : Except Error Domain :=
  if s = "image" then .ok .image
  else if s = "video" then .ok .video
  else .error (.unsupportedType s)

theorem ofName_name (d : Domain) : ofName d.name = .ok d := by cases d <;> rfl

end Domain

end MediaTransform
