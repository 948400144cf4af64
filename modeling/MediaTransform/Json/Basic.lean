import MediaTransform.Number.Shortest

/-! # JSON documents

* **`Json`** — a document. Numbers keep their spelling and objects keep every field in order, so
  that the reader of a document, not the document, decides about ranges and repeated fields.
* **`Json.NumberText`** — a number as spelled: sign, digits, places, exponent.
* **`Json.StringText`** — the text of a string, if its escapes denote one. -/

namespace MediaTransform

/-! ## (1) Spelled numbers and strings -/

/-- The sign in front of an exponent. -/
inductive Json.ExponentSign where
  | none
  | plus
  | minus
  deriving DecidableEq, Repr

/-- **A number as it is spelled.** -/
structure Json.NumberText where
  negative : Bool
  whole : List Char
  fraction : Option (List Char)
  exponent : Option (Json.ExponentSign × List Char)
  deriving DecidableEq, Repr

/-- **The text of a string**: nothing when a `\u` escape names half of a surrogate pair without
the other half. Such a string is well-formed and can be passed over, but it has no text. -/
abbrev Json.StringText := Option String

/-! ## (2) Documents -/

/-- **A JSON document.** -/
inductive Json where
  | null
  | bool (b : Bool)
  | number (n : Json.NumberText)
  | string (s : Json.StringText)
  | array (items : List Json)
  | object (fields : List (Json.StringText × Json))

namespace Json

/-- A string with a text. -/
def ofText (s : String) : Json := .string (some s)

/-- An object whose keys have texts. -/
def ofFields (fields : List (String × Json)) : Json :=
  .object (fields.map fun f => (some f.1, f.2))

/-- A natural number in plain digits. -/
def ofNat (n : Nat) : Json := .number ⟨false, Nat.toDigits 10 n, none, none⟩

end Json

end MediaTransform
