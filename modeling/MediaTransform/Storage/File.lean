import MediaTransform.Image.Buffer

/-! # Files

* **`FileError`** — why the system refuses to read or write a file, and in which words.
* **`FileReader`** — reading files by their paths. -/

namespace MediaTransform

/-- **Why the system refuses a file operation.** -/
inductive FileError where
  | missing
  | notDirectory
  | isDirectory
  | nameTooLong
  | nulInName
  | denied
  | other (reason : String)
  deriving DecidableEq, Repr

namespace FileError

/-- The wording of a refusal. -/
def message : FileError → String
  | missing => "No such file or directory (os error 2)"
  | notDirectory => "Not a directory (os error 20)"
  | isDirectory => "Is a directory (os error 21)"
  | nameTooLong => "File name too long (os error 36)"
  | nulInName => "file name contained an unexpected NUL byte"
  | denied => "Permission denied (os error 13)"
  | other reason => reason

/-- The refusal with a code of the system, whose words are known where they matter. -/
def ofCode (code : Nat) (words : String) : FileError :=
  match code with
  | 2 => .missing
  | 13 => .denied
  | 20 => .notDirectory
  | 21 => .isDirectory
  | 36 => .nameTooLong
  | _ => .other (words ++ " (os error " ++ toString code ++ ")")

end FileError

/-- **Reading files by their paths.** -/
abbrev FileReader := String → Except FileError Buffer

end MediaTransform
