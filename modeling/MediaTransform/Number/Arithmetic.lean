import MediaTransform.Number.Basic

/-! # Arithmetic on numbers

Each operation is the exact one on the values followed by a single rounding to the nearest number:

* **`Number.add`, `sub`, `mul`, `div`** — with the usual answers for infinities and zeros.
* **`Number.round`** — to the nearest integer, a half going away from zero.
* **`Number.toNatUpTo`** — the integer part as a natural, held between `0` and a limit.
* **`Number.lesser`, `greater`** — of two numbers, where not-a-number yields to the other one. -/

namespace MediaTransform

namespace Number

/-! ## (1) Sum, product, quotient -/

/-- The opposite number. -/
def neg : Number → Number
  | .nan => .nan
  | .infinite s => .infinite (!s)
  | .finite s m q h => .finite (!s) m q h

/-- **The sum**, over the smaller of the two exponents. A sum that is exactly zero is positive
unless both terms are negative. -/
def add : Number → Number → Number
  | .nan, _ => .nan
  | _, .nan => .nan
  | .infinite s, .infinite t => if s = t then .infinite s else .nan
  | .infinite s, .finite .. => .infinite s
  | .finite .., .infinite t => .infinite t
  | .finite s m q _, .finite t n r _ =>
    let total := signed s m * 2 ^ (q - r).toNat + signed t n * 2 ^ (r - q).toNat
    if total = 0 then zero (s && t) else ofScaled (total < 0) total.natAbs (min q r)

/-- The difference. -/
def sub (a b : Number) : Number := a.add b.neg

/-- **The product**; zero times infinity is not a number. -/
def mul : Number → Number → Number
  | .nan, _ => .nan
  | _, .nan => .nan
  | .infinite s, .infinite t => .infinite (s ^^ t)
  | .infinite s, .finite t n _ _ => if n = 0 then .nan else .infinite (s ^^ t)
  | .finite s m _ _, .infinite t => if m = 0 then .nan else .infinite (s ^^ t)
  | .finite s m q _, .finite t n r _ => ofScaled (s ^^ t) (m * n) (q + r)

/-- **The quotient**; a non-zero number over zero is infinite, zero over zero is not a number. -/
def div : Number → Number → Number
  | .nan, _ => .nan
  | _, .nan => .nan
  | .infinite _, .infinite _ => .nan
  | .infinite s, .finite t _ _ _ => .infinite (s ^^ t)
  | .finite s _ _ _, .infinite t => zero (s ^^ t)
  | .finite s m q _, .finite t n r _ =>
    if n = 0 then (if m = 0 then .nan else .infinite (s ^^ t))
    else ofRatio (s ^^ t) (m * 2 ^ (q - r).toNat) (n * 2 ^ (r - q).toNat)

instance : Neg Number := ⟨neg⟩
instance : Add Number := ⟨add⟩
instance : Sub Number := ⟨sub⟩
instance : Mul Number := ⟨mul⟩
instance : Div Number := ⟨div⟩

/-! ## (2) Integers near a number -/

/-- The natural nearest to `num / den`, a half going up. -/
def nearestUp (num den : Nat) : Nat := (2 * num + den) / (2 * den)

/-- **The nearest integer, a half going away from zero.** The sign is kept, also that of a zero
result. A number with a non-negative exponent is an integer already. -/
def round : Number → Number
  | .nan => .nan
  | .infinite s => .infinite s
  | .finite s m q h =>
    if 0 ≤ q then .finite s m q h else ofRatio s (nearestUp m (2 ^ (-q).toNat)) 1

/-- **The integer part, held between `0` and `limit`.** Not-a-number gives `0`. -/
def toNatUpTo (limit : Nat) : Number → Nat
  | .nan => 0
  | .infinite s => if s then 0 else limit
  | .finite s m q _ => if s then 0 else min limit (m * 2 ^ q.toNat / 2 ^ (-q).toNat)

/-! ## (3) The smaller and the larger of two -/

/-- The smaller of two numbers; not-a-number yields to the other. -/
def lesser (a b : Number) : Number :=
  if a.isNaN then b else if b.isNaN then a else if b < a then b else a

/-- The larger of two numbers; not-a-number yields to the other. -/
def greater (a b : Number) : Number :=
  if a.isNaN then b else if b.isNaN then a else if a < b then b else a

end Number

end MediaTransform
