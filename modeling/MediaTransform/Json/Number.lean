import MediaTransform.Json.Basic
import MediaTransform.Number.Arithmetic

/-! # Numbers in JSON

* **`Json.ofNumber`** — the shortest digits; positional with at least one place when the power of
  ten of the first digit is from -5 to 15, otherwise with an exponent. Infinities and
  not-a-number, which JSON cannot spell, are `null`.
* **`Json.NumberText.toNumber?`** — a spelled number as an integer of at most 64 bits, scaled by a
  power of ten; the integer, the power and their product or quotient are each rounded.
* **`Json.NumberText.toNat?`** — the natural of a number without sign, point and exponent. -/

namespace MediaTransform

namespace Json

/-! ## (1) Writing -/

/-- The spelling of a positive decimal with a sign. -/
def spell (negative : Bool) (d : Decimal) : NumberText :=
  let ds := d.digits
  let lead := d.leadingExponent
  if -5 ≤ lead ∧ lead ≤ 15 then
    if 0 ≤ d.exponent then
      ⟨negative, ds ++ List.replicate d.exponent.toNat '0', some ['0'], none⟩
    else
      let places := (-d.exponent).toNat
      if places < ds.length then
        ⟨negative, ds.take (ds.length - places), some (ds.drop (ds.length - places)), none⟩
      else ⟨negative, ['0'], some (List.replicate (places - ds.length) '0' ++ ds), none⟩
  else
    let sign := if lead < 0 then ExponentSign.minus else .plus
    ⟨negative, ds.take 1, if ds.length ≤ 1 then none else some (ds.drop 1),
      some (sign, Nat.toDigits 10 lead.natAbs)⟩

/-- **A number as JSON.** -/
def ofNumber : Number → Json
  | .nan => .null
  | .infinite _ => .null
  | .finite s m q h =>
    if m = 0 then .number ⟨s, ['0'], some ['0'], none⟩
    else .number (spell s (Number.shortest .even m q h))

/-! ## (2) Reading -/

/-- The largest significand: what 64 bits hold. -/
def maxSignificand : Nat := 2 ^ 64 - 1

/-- The largest exponent that is read digit by digit: what 31 bits hold. -/
def maxExponent : Nat := 2 ^ 31 - 1

/-- Appends digits to a significand as long as it fits; the digits that no longer fit are left. -/
def absorb (limit significand : Nat) : List Char → Nat × List Char
  | [] => (significand, [])
  | c :: cs =>
    let next := 10 * significand + (c.toNat - 48)
    if next ≤ limit then absorb limit next cs else (significand, c :: cs)

/-- The rounded power of ten. -/
def tenPower (n : Nat) : Number := .ofDecimal false 1 n

/-- **A significand times a power of ten.** Powers beyond `10 ^ 308` are no numbers: a scale above
fails unless the significand is zero, and one below divides by `10 ^ 308` in turn. -/
def scale? (x : Number) (exponent : Int) : Option Number :=
  if h : exponent.natAbs ≤ 308 then
    if 0 ≤ exponent then
      let product := x * tenPower exponent.natAbs
      if product.isFinite then some product else none
    else some (x / tenPower exponent.natAbs)
  else if x.cmp (.zero false) = some .eq then some x
  else if 0 ≤ exponent then none
  else scale? (x / tenPower 308) (exponent + 308)
termination_by exponent.natAbs

namespace NumberText

/-- The sign put on a magnitude. -/
def withSign (negative : Bool) (x : Number) : Number := if negative then -x else x

/-- The exponent that is written, if it can be read digit by digit. -/
def exponent? (sign : ExponentSign) (digits : List Char) : Option Int :=
  match absorb maxExponent 0 digits with
  | (n, []) => some (if sign = .minus then -(n : Int) else n)
  | _ => none

/-- **The number of a spelling**; nothing when it is beyond the range of numbers. -/
def toNumber? (t : NumberText) : Option Number :=
  let (whole, beyond) := absorb maxSignificand 0 t.whole
  let places := t.fraction.getD []
  let (significand, left) := absorb maxSignificand whole places
  let base : Int := (beyond.length : Int) - ((places.length : Int) - left.length)
  match t.fraction, t.exponent with
  | none, none =>
    if beyond = [] then some (withSign t.negative (.ofNat significand))
    else (scale? (.ofNat significand) base).map (withSign t.negative)
  | _, none => (scale? (.ofNat significand) base).map (withSign t.negative)
  | _, some (sign, digits) =>
    match exponent? sign digits with
    | some e => (scale? (.ofNat significand) (base + e)).map (withSign t.negative)
    | none =>
      if significand ≠ 0 ∧ sign ≠ .minus then none
      else some (withSign t.negative (.zero false))

/-- **The natural number of a spelling**: no sign, no point, no exponent. -/
def toNat? (t : NumberText) : Option Nat :=
  match t.negative, t.fraction, t.exponent with
  | false, none, none => some (t.whole.foldl (fun n c => 10 * n + (c.toNat - 48)) 0)
  | _, _, _ => none

end NumberText

end Json

end MediaTransform
