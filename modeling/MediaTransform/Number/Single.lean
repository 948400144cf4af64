import MediaTransform.Number.Arithmetic
import MediaTransform.Number.Shortest

/-! # Numbers of single precision

Thresholds of the edge detector are kept in the 32-bit format, whose values are numbers with at
most 24 bits and exponents from -149 on.

* **`Number.toSingle`** — the nearest value of the 32-bit format, a tie going to the even
  significand.
* **`Number.singleText`** — the shortest digits that identify the value within that format.
* **`Number.toFloat32`** — the machine float, by its bits. -/

namespace MediaTransform

namespace Number

/-- The value of the 32-bit format nearest to `± num / den`; from `2 ^ 128` on it is infinite. -/
def singleOfRatio (negative : Bool) (num den : Nat) : Number :=
  if num = 0 then zero negative
  else
    let place := lastPlaceIn 24 (-149) num den
    let digits := nearest (num * 2 ^ (-place).toNat) (den * 2 ^ place.toNat)
    if 2 ^ 128 ≤ digits * 2 ^ place.toNat then .infinite negative
    else ofScaled negative digits place

/-- The value of the 32-bit format nearest to a decimal. -/
def singleOfDecimal (negative : Bool) (d : Decimal) : Number :=
  singleOfRatio negative (d.coefficient * 10 ^ d.exponent.toNat) (10 ^ (-d.exponent).toNat)

/-- **The nearest value of the 32-bit format.** -/
def toSingle : Number → Number
  | .nan => .nan
  | .infinite s => .infinite s
  | .finite s m q _ => singleOfRatio s (m * 2 ^ q.toNat) (2 ^ (-q).toNat)

/-- **The plain text of a value of the 32-bit format.** -/
def singleText (x : Number) : String :=
  match x with
  | .finite s m q h =>
    if m = 0 then x.text
    else
      let digits := shortestBy .up (fun d => singleOfDecimal false d = .finite false m q h) m q
      String.ofList ((if s then ['-'] else []) ++ digits.plain)
  | _ => x.text

/-- The bits of a value of the 32-bit format in the interchange format: sign, biased exponent,
fraction. Below the exponent -149 of the last place, which has 29 bits less here, they count its
multiples. -/
def singleBits : Number → UInt32
  | .nan => 0x7fc00000
  | .infinite s => (if s then 0x80000000 else 0) + 0x7f800000
  | .finite s m q _ =>
    let sign : Nat := if s then 2 ^ 31 else 0
    if q + 29 < -149 then (sign + m / 2 ^ (-149 - q).toNat).toUInt32
    else (sign + (q + 179).toNat * 2 ^ 23 + (m / 2 ^ 29 - 2 ^ 23)).toUInt32

/-- The nearest value of the 32-bit format as a machine float. -/
def toFloat32 (x : Number) : Float32 := Float32.ofBits x.toSingle.singleBits

end Number

end MediaTransform
