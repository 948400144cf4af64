/-! # Errors of a transformation request

* **`Error`** — every way in which a request can fail, by cause.
* **`Error.message`**, **`code`**, **`status`** — the wording, the machine-readable code and the
  HTTP status of each cause. -/

namespace MediaTransform

/-- **A cause of failure.** -/
inductive Error where
  /-- The path has no transformation chain of the expected shape. -/
  | malformedUrl (reason : String)
  /-- The declared domain is none of the media domains. -/
  | unsupportedType (name : String)
  /-- The MIME type of the asset cannot be told from its id. -/
  | unsupportedMedia (id : String)
  /-- A named thing does not exist. -/
  | notFound (entity id : String)
  /-- One operation of the chain failed. -/
  | operation (op reason : String)
  /-- Configuration or request data is not valid. -/
  | validation (reason : String)
  /-- An external tool is missing or failed. -/
  | tool (name reason : String)
  /-- Reading or writing failed. -/
  | io (reason : String)
  /-- A state that should not arise. -/
  | internal (reason : String)
  deriving DecidableEq, Repr

namespace Error

/-- The wording of an error. -/
def message : Error → String
  | malformedUrl reason => "Malformed transformation URL: " ++ reason
  | unsupportedType name => "Unsupported type: " ++ name
  | unsupportedMedia id => "Unsupported file type: " ++ id
  | notFound entity id => entity ++ " not found: " ++ id
  | operation op reason => "Operation " ++ op ++ " failed: " ++ reason
  | validation reason => "Validation error: " ++ reason
  | tool name reason => "Tool error [" ++ name ++ "]: " ++ reason
  | io reason => "IO error: " ++ reason
  | internal reason => "Internal error: " ++ reason

/-- The machine-readable code of an error. -/
def code : Error → String
  | malformedUrl _ => "malformed_url"
  | unsupportedType _ => "unsupported_type"
  | unsupportedMedia _ => "unsupported_media"
  | notFound .. => "not_found"
  | operation .. => "operation_error"
  | validation _ => "validation_error"
  | tool .. => "tool_error"
  | io _ => "io_error"
  | internal _ => "internal_error"

/-- **The HTTP status of an error**: the client's faults are 4xx, a failing tool is a bad gateway
and the rest are the server's own. -/
def status : Error → Nat
  | notFound .. => 404
  | tool .. => 502
  | io _ | internal _ => 500
  | _ => 400

/-- What lies under an error, where it is told apart from the error itself. -/
def cause : Error → Option String
  | io reason => some reason
  | _ => none

/-- Whether a failing operation is named by the error. -/
def isOperation : Error → Bool
  | operation .. => true
  | _ => false

end Error

end MediaTransform
