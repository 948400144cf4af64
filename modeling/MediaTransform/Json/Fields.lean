import MediaTransform.Json.Basic

/-! # Records in JSON

A record with named fields is an object with these keys, or an array of the values in the order of
the fields.

* **`Json.record?`** — the value of each field, where given. A field that is given twice makes the
  record unreadable; unknown fields are passed over. -/

namespace MediaTransform

namespace Json

/-- Whether every key of the fields has a text. -/
def keysHaveText (fields : List (StringText × Json)) : Bool := fields.all fun f => f.1.isSome

/-- The values given for a key. -/
def valuesOf (name : String) (fields : List (StringText × Json)) : List Json :=
  (fields.filter fun f => f.1 == some name).map (·.2)

/-- **The values of a record's fields**, in the order of `names`. -/
def record? (names : List String) : Json → Option (List (Option Json))
  | .object fields =>
    if keysHaveText fields ∧ names.all (fun n => (valuesOf n fields).length ≤ 1) then
      some (names.map fun n => (valuesOf n fields).head?)
    else none
  | .array items =>
    if items.length ≤ names.length then
      some (items.map some ++ List.replicate (names.length - items.length) none)
    else none
  | _ => none

/-- The text of a string. -/
def text? : Json → Option String
  | .string s => s
  | _ => none

end Json

end MediaTransform
