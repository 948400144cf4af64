import MediaTransform.Number.Arithmetic

/-! # Decimal texts

* **`DecimalText.parts?`** — the texts that are read as numbers: an optional sign, then digits with
  at most one point and at least one digit.
* **`DecimalText.Parts.toNumber`** — the nearest number.
* **`Number.ofText?`** — also texts with an exponent and the names of infinities and
  not-a-number. -/

namespace MediaTransform

namespace DecimalText

/-- A text cut into its sign, the digits before the point and, if there is a point, the digits
after it. -/
structure Parts where
  negative : Bool
  whole : List Char
  fraction : Option (List Char)
  deriving DecidableEq, Repr

/-- Whether the text begins with a minus sign, and the text without its sign. -/
def splitSign : List Char → Bool × List Char
  | '-' :: cs => (true, cs)
  | '+' :: cs => (false, cs)
  | cs => (false, cs)

/-- **The parts of a decimal text**; nothing when the text is not decimal. -/
def parts? (cs : List Char) : Option Parts :=
  let (negative, body) := splitSign cs
  let whole := body.takeWhile Char.isDigit
  match body.dropWhile Char.isDigit with
  | [] => if whole = [] then none else some ⟨negative, whole, none⟩
  | '.' :: rest =>
    if rest.all Char.isDigit ∧ (whole ≠ [] ∨ rest ≠ []) then some ⟨negative, whole, some rest⟩
    else none
  | _ => none

/-- The natural that a row of decimal digits stands for. -/
def digitsValue (cs : List Char) : Nat := cs.foldl (fun n c => 10 * n + (c.toNat - 48)) 0

/-- **The number of a decimal text**: the digits of both parts as one natural, over the power of
ten of the places after the point. -/
def Parts.toNumber (p : Parts) : Number :=
  let fraction := p.fraction.getD []
  .ofDecimal p.negative (digitsValue (p.whole ++ fraction)) (-(fraction.length : Int))

end DecimalText

/-- The power of ten after the letter `e`, with an optional sign. -/
def DecimalText.exponent? (cs : List Char) : Option Int :=
  let (negative, digits) := splitSign cs
  if digits ≠ [] ∧ digits.all Char.isDigit then
    some (if negative then -(digitsValue digits : Int) else digitsValue digits)
  else none

/-- **The number of a text** in decimal digits, with an optional exponent, or by name. -/
def Number.ofText? (s : String) : Option Number :=
  if s = "NaN" then some .nan
  else if s = "inf" then some (.infinite false)
  else if s = "-inf" then some (.infinite true)
  else
    let cs := s.toList
    let mantissa := cs.takeWhile (· ≠ 'e')
    match DecimalText.parts? mantissa, cs.dropWhile (· ≠ 'e') with
    | some p, [] => some p.toNumber
    | some p, _ :: power =>
      (DecimalText.exponent? power).map fun e =>
        let fraction := p.fraction.getD []
        .ofDecimal p.negative (DecimalText.digitsValue (p.whole ++ fraction)) (e - fraction.length)
    | none, _ => none

end MediaTransform
