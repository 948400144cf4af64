import MediaTransform.Dictionary
import MediaTransform.Error
import MediaTransform.Number.Arithmetic
import MediaTransform.Number.Shortest

/-! # Parameters of a transformation

* **`Value`** — a number or a text.
* **`Params`** — values under distinct keys, in key order.
* **`Params.requireNumber`**, **`dimension`**, **`requireDimension`**, **`requireOffset`** — typed
  readings that name the operation on whose behalf they fail. -/

namespace MediaTransform

/-! ## (1) Values -/

/-- **The value of a parameter.** -/
inductive Value where
  | number (x : Number)
  | text (t : String)
  deriving DecidableEq

namespace Value

/-- The number, if this is one. -/
def number? : Value → Option Number
  | number x => some x
  | text _ => none

/-- The text, if this is one. -/
def text? : Value → Option String
  | number _ => none
  | text t => some t

/-- The value as it stands in a path: a number in plain digits, a text as it is. -/
def display : Value → String
  | number x => x.text
  | text t => t

end Value

/-! ## (2) Parameters and their typed readings -/

/-- Parameters under distinct keys. -/
abbrev Params := Dictionary Value

namespace Params

/-- The largest side or offset of an image: what 32 bits hold. -/
def maxPixels : Nat := 2 ^ 32 - 1

/-- The number under `key`; nothing for a text or an absent key. -/
def number? (ps : Params) (key : String) : Option Number := (ps.get? key).bind Value.number?

/-- The text under `key`; nothing for a number or an absent key. -/
def text? (ps : Params) (key : String) : Option String := (ps.get? key).bind Value.text?

/-- The error of a key that `op` needs and does not find. -/
def missing (op key : String) : Error :=
  .operation op ("missing required parameter '" ++ key ++ "'")

/-- **The finite number under `key`**, which `op` cannot do without. -/
def requireNumber (ps : Params) (op key : String) : Except Error Number :=
  match ps.get? key with
  | none => .error (missing op key)
  | some (.number x) =>
    if x.isFinite then .ok x else .error (notNumeric op key (.number x))
  | some v => .error (notNumeric op key v)
where
  /-- The error of a key whose value is no finite number. -/
  notNumeric (op key : String) (v : Value) : Error :=
    .operation op ("parameter '" ++ key ++ "' must be numeric, got '" ++ v.display ++ "'")

/-- **The side in pixels under `key`**, if the key is present: the number rounded, at least one
and at most what 32 bits hold. -/
def dimension (ps : Params) (op key : String) : Except Error (Option Nat) :=
  if ps.contains key then do
    let value ← ps.requireNumber op key
    let rounded := value.round
    if rounded < .ofNat 1 ∨ .ofNat maxPixels < rounded then
      .error (.operation op
        ("parameter '" ++ key ++ "' must be a positive pixel size, got " ++ value.text))
    else .ok (some (rounded.toNatUpTo maxPixels))
  else .ok none

/-- The side in pixels under `key`, which `op` cannot do without. -/
def requireDimension (ps : Params) (op key : String) : Except Error Nat := do
  match ← ps.dimension op key with
  | some n => .ok n
  | none => .error (missing op key)

/-- **The offset in pixels under `key`**, which `op` cannot do without: the number rounded, not
negative and at most what 32 bits hold. -/
def requireOffset (ps : Params) (op key : String) : Except Error Nat := do
  let value ← ps.requireNumber op key
  let rounded := value.round
  if rounded < .ofNat 0 ∨ .ofNat maxPixels < rounded then
    .error (.operation op
      ("parameter '" ++ key ++ "' must be a non-negative offset, got " ++ value.text))
  else .ok (rounded.toNatUpTo maxPixels)

end Params

end MediaTransform
