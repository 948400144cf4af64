import MediaTransform.Number.Instances

/-! # Numbers: the binary floating-point values of 64 bits

Parameter values, sizes in flight and ratios are numbers in the 64-bit binary format. They are
kept here as exact integers, so that every rule about them is a statement about `Nat` and `Int`:

* **`Number`** — not-a-number, a signed infinity, or `± significand · 2 ^ exponent` in the one
  canonical form that the format gives to each value; equality is therefore decidable and two
  finite numbers of one sign are equal exactly when their values are.
* **`Number.ofRatio`** — the number nearest to a quotient of naturals, a tie going to the even
  significand and a too large quotient to infinity.
* **`Number.ofDecimal`** — the number nearest to `coefficient · 10 ^ exponent`.
* **`Number.cmp`** — the order, in which not-a-number compares with nothing. -/

namespace MediaTransform

/-! ## (1) The format -/

/-- **The canonical significands.** At most 53 bits, all 53 used unless the exponent is the least
one; the exponent runs from `-1074` to `971`. -/
def Number.Canonical (significand : Nat) (exponent : Int) : Prop :=
  significand < 2 ^ 53 ∧ -1074 ≤ exponent ∧ exponent ≤ 971 ∧
    (2 ^ 52 ≤ significand ∨ exponent = -1074)

instance (significand : Nat) (exponent : Int) :
    Decidable (Number.Canonical significand exponent) :=
  inferInstanceAs (Decidable (_ ∧ _ ∧ _ ∧ (_ ∨ _)))

/-- **A number** of the 64-bit binary format. -/
inductive Number where
  /-- Not a number. -/
  | nan
  /-- An infinity. -/
  | infinite (negative : Bool)
  /-- The value `± significand · 2 ^ exponent`. -/
  | finite (negative : Bool) (significand : Nat) (exponent : Int)
      (canonical : Number.Canonical significand exponent)
  deriving DecidableEq

namespace Number

/-- Zero with a sign. -/
def zero (negative : Bool) : Number := .finite negative 0 (-1074) (by decide)

instance : Inhabited Number := ⟨zero false⟩

/-- Whether the number is neither infinite nor not-a-number. -/
def isFinite : Number → Bool
  | .finite .. => true
  | _ => false

/-- Whether this is not-a-number. -/
def isNaN : Number → Bool
  | .nan => true
  | _ => false

@[simp] theorem isFinite_finite (s : Bool) (m : Nat) (q : Int) (h : Canonical m q) :
    (Number.finite s m q h).isFinite = true := rfl

@[simp] theorem isFinite_infinite (s : Bool) : (Number.infinite s).isFinite = false := rfl

@[simp] theorem isFinite_nan : Number.nan.isFinite = false := rfl

/-! ## (2) Rounding a quotient -/

/-- **The natural nearest to `num / den`**, a tie going to the even neighbour. -/
def nearest (num den : Nat) : Nat :=
  let low := num / den
  let rest := num % den
  if 2 * rest < den then low
  else if den < 2 * rest then low + 1
  else if low % 2 = 0 then low else low + 1

/-- Whether `num / den` is less than `2 ^ exponent`, by integers only. -/
def isBelowPower (num den : Nat) (exponent : Int) : Bool :=
  num * 2 ^ (-exponent).toNat < den * 2 ^ exponent.toNat

/-- **The exponent of the last place of `num / den`**: the least one that leaves the significand
with at most `bits` bits before rounding, but never under the least exponent of the format. The
two logarithms fix it up to one, and one comparison decides. -/
def lastPlaceIn (bits : Nat) (least : Int) (num den : Nat) : Int :=
  let low := (num.log2 : Int) - den.log2 - bits
  max least (if isBelowPower num den (low + bits) then low else low + 1)

/-- The exponent of the last place of `num / den` in this format. -/
def lastPlace (num den : Nat) : Int := lastPlaceIn 53 (-1074) num den

/-- **The number nearest to `± num / den`** for `den > 0`. A significand that rounds up to
`2 ^ 53` moves to the next exponent; one beyond the last exponent is infinite. -/
def ofRatio (negative : Bool) (num den : Nat) : Number :=
  if num = 0 then zero negative
  else
    let place := lastPlace num den
    let digits := nearest (num * 2 ^ (-place).toNat) (den * 2 ^ place.toNat)
    -- only `2 ^ 53` itself fails here for its size, and half of it is one place up
    if h : Canonical digits place then .finite negative digits place h
    else if h : Canonical (digits / 2) (place + 1) then
      .finite negative (digits / 2) (place + 1) h
    else .infinite negative

/-- The number nearest to `± coefficient · 2 ^ exponent`. -/
def ofScaled (negative : Bool) (coefficient : Nat) (exponent : Int) : Number :=
  ofRatio negative (coefficient * 2 ^ exponent.toNat) (2 ^ (-exponent).toNat)

/-- **The number nearest to `± coefficient · 10 ^ exponent`.** -/
def ofDecimal (negative : Bool) (coefficient : Nat) (exponent : Int) : Number :=
  ofRatio negative (coefficient * 10 ^ exponent.toNat) (10 ^ (-exponent).toNat)

/-- The number nearest to a natural. -/
def ofNat (n : Nat) : Number := ofRatio false n 1

theorem ofRatio_zero (negative : Bool) (den : Nat) : ofRatio negative 0 den = zero negative := rfl

/-! ## (3) Order -/

/-- A natural with a sign, as an integer. -/
def signed (negative : Bool) (n : Nat) : Int := if negative then -(n : Int) else n

@[simp] theorem signed_true (n : Nat) : signed true n = -(n : Int) := rfl

@[simp] theorem signed_false (n : Nat) : signed false n = n := rfl

/-- **How two numbers compare**: `none` when one of them is not a number. The two zeros are
equal. -/
def cmp : Number → Number → Option Ordering
  | .nan, _ => none
  | _, .nan => none
  | .infinite s, .infinite t => some (if s = t then .eq else if s then .lt else .gt)
  | .infinite s, .finite .. => some (if s then .lt else .gt)
  | .finite .., .infinite t => some (if t then .gt else .lt)
  | .finite s m q _, .finite t n r _ =>
    -- both significands brought to the smaller exponent
    some (compare (signed s m * 2 ^ (q - r).toNat) (signed t n * 2 ^ (r - q).toNat))

instance : LT Number := ⟨fun a b => a.cmp b = some .lt⟩

instance : LE Number := ⟨fun a b => a.cmp b = some .lt ∨ a.cmp b = some .eq⟩

theorem lt_iff {a b : Number} : a < b ↔ a.cmp b = some .lt := Iff.rfl

theorem le_iff {a b : Number} : a ≤ b ↔ a.cmp b = some .lt ∨ a.cmp b = some .eq := Iff.rfl

instance (a b : Number) : Decidable (a < b) :=
  inferInstanceAs (Decidable (a.cmp b = some .lt))

instance (a b : Number) : Decidable (a ≤ b) :=
  inferInstanceAs (Decidable (a.cmp b = some .lt ∨ a.cmp b = some .eq))

end Number

end MediaTransform
