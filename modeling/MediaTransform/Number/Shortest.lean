import MediaTransform.Number.Basic

/-! # The shortest digits that read back

A number is written with as few decimal digits as identify it. The digits are chosen once; a
layout then places the point.

* **`Decimal`** — a coefficient times a power of ten.
* **`Number.shortest`** — tries the value's two neighbours on the decimal grids of 1, 2, … 17
  digits and takes the first grid with a neighbour that reads back as the same number; of two,
  the nearer. Reading back is tested with the reader itself (`Number.ofDecimal`).
* **`TieRule`** — which of two equally near neighbours is taken: a decision of the format.
* **`Decimal.plain`** — the positional layout, without exponent. -/

namespace MediaTransform

/-- The decimal number `coefficient · 10 ^ exponent`. -/
structure Decimal where
  coefficient : Nat
  exponent : Int
  deriving DecidableEq, Repr

/-- **Which of two equally near neighbours a format prefers.** -/
inductive TieRule where
  /-- The larger one. -/
  | up
  /-- The one with the even last digit. -/
  | even
  deriving DecidableEq, Repr

namespace Decimal

/-! ## (1) Decimals -/

/-- The same decimal with no trailing zero in the coefficient. -/
def strip (coefficient : Nat) (exponent : Int) : Decimal :=
  if h : coefficient ≠ 0 ∧ coefficient % 10 = 0 then
    strip (coefficient / 10) (exponent + 1)
  else ⟨coefficient, exponent⟩
termination_by coefficient
decreasing_by omega

/-- The digits of the coefficient, most significant first. -/
def digits (d : Decimal) : List Char := Nat.toDigits 10 d.coefficient

/-- **The positional layout**: whole numbers without a point, all others with at least one digit
before it. -/
def plain (d : Decimal) : List Char :=
  if 0 ≤ d.exponent then d.digits ++ List.replicate d.exponent.toNat '0'
  else
    let places := (-d.exponent).toNat
    if places < d.digits.length then
      d.digits.take (d.digits.length - places) ++ '.' :: d.digits.drop (d.digits.length - places)
    else '0' :: '.' :: (List.replicate (places - d.digits.length) '0' ++ d.digits)

/-- The power of ten of the first digit. -/
def leadingExponent (d : Decimal) : Int := d.exponent + d.digits.length - 1

end Decimal

namespace Number

/-! ## (2) Choosing the digits -/

/-- The number of decimal digits of a natural. -/
def digitCount (n : Nat) : Nat := (Nat.toDigits 10 n).length

/-- The least `e` with `num / den < 10 ^ e`, for positive `num` and `den`: the digit counts fix it
up to one. -/
def decimalSize (num den : Nat) : Int :=
  let low := (digitCount num : Int) - digitCount den
  if num * 10 ^ (-low).toNat < den * 10 ^ low.toNat then low else low + 1

/-- **The neighbour of `num / den` on the grid of multiples of `10 ^ exponent` that reads back**,
if there is one. When both do, the nearer is taken, and the tie rule decides between equally near
ones. -/
def onGrid (tie : TieRule) (readsBack : Decimal → Bool) (num den : Nat) (exponent : Int) :
    Option Decimal :=
  let scaledNum := num * 10 ^ (-exponent).toNat
  let scaledDen := den * 10 ^ exponent.toNat
  let low := scaledNum / scaledDen
  let rest := scaledNum % scaledDen
  if readsBack ⟨low, exponent⟩ then
    if readsBack ⟨low + 1, exponent⟩ then
      -- both neighbours read back: the nearer one
      if 2 * rest < scaledDen then some ⟨low, exponent⟩
      else if scaledDen < 2 * rest then some ⟨low + 1, exponent⟩
      else match tie with
        | .up => some ⟨low + 1, exponent⟩
        | .even => some ⟨if low % 2 = 0 then low else low + 1, exponent⟩
    else some ⟨low, exponent⟩
  else if readsBack ⟨low + 1, exponent⟩ then some ⟨low + 1, exponent⟩
  else none

/-- **The shortest decimal that reads back as `significand · 2 ^ exponent`.** After the grids of
1 to 17 digits the exact expansion stands ready, so that the answer always reads back. -/
def shortestBy (tie : TieRule) (readsBack : Decimal → Bool) (significand : Nat) (exponent : Int) :
    Decimal :=
  let num := significand * 2 ^ exponent.toNat
  let den := 2 ^ (-exponent).toNat
  let size := decimalSize num den
  match (List.range 17).findSome? fun n => onGrid tie readsBack num den (size - (n + 1 : Nat)) with
  | some d => Decimal.strip d.coefficient d.exponent
  | none => ⟨num * 5 ^ (-exponent).toNat, -((-exponent).toNat : Int)⟩

/-- The shortest decimal that reads back as a positive number. -/
def shortest (tie : TieRule) (significand : Nat) (exponent : Int)
    (canonical : Canonical significand exponent) : Decimal :=
  shortestBy tie
    (fun d => ofDecimal false d.coefficient d.exponent = .finite false significand exponent canonical)
    significand exponent

/-! ## (3) The text of a number -/

/-- **The plain text of a number**: positional, never with an exponent, whole numbers without a
point; `-0`, `inf`, `-inf` and `NaN` for the values without digits of their own. -/
def plainChars : Number → List Char
  | .nan => ['N', 'a', 'N']
  | .infinite s => (if s then ['-'] else []) ++ ['i', 'n', 'f']
  | .finite s m q h =>
    (if s then ['-'] else []) ++ if m = 0 then ['0'] else (shortest .up m q h).plain

/-- The plain text of a number, as a string. -/
def text (x : Number) : String := String.ofList x.plainChars

end Number

end MediaTransform
