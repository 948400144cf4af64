import MediaTransform.Media.Params
import MediaTransform.Number.DecimalText

/-! # Reading a raw parameter as a number or a text

* **`coerce`** — the value of a raw text: the nearest number when the whole text is decimal, the
  text itself otherwise. -/

namespace MediaTransform

/-- **The value of a raw text.** A decimal beyond the range of numbers reads as infinite. -/
def coerce (raw : String) : Value :=
  match DecimalText.parts? raw.toList with
  | some p => .number p.toNumber
  | none => .text raw

end MediaTransform
